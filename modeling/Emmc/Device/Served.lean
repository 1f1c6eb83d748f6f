import Emmc.Device.Flush

/-!
# No request is stranded

The head of the queue is submitted from three places: from `inoutData`, behind a finished request,
and between two commands of a request. Each of them can throw, and what `handleIrq` catches leaves
nobody behind who would submit the head again.

* `Served`: the queue is empty, or its head is in flight and the interrupt is unmasked.
* `Smooth`: the operations that cannot throw in the middle. They are described by what comes in:
  the request (`Sound`) and the interrupt (`HwDrv.faultless`).
* `Serviceable`: what a slot needs so that each of its further commands is accepted;
  `inoutWork_serviceable` passes it on from command to command.
* `served_run`: along smooth operations every state is served.
-/

namespace Emmc

open Throwing

variable {H Irq : Type}

namespace Device

variable (drv : HwDrv H Irq) (info : DeviceInfo)

/-! ## Requests whose commands are all accepted -/

/-- The data command for a block list. -/
def transfer (blocks : List Block) (blockcnt : U32) : Cmd :=
  { cmd := Mmc.cmd18ReadMultipleBlock
    flags := { hasData := true }
    blocks := blocks
    blockcnt := blockcnt
    blocksize := 512 }

/-- The controller accepts every data command for these blocks: the one for the whole list in
ADMA2 mode, one for each block in SDMA mode. -/
def Carriable (blocks : List Block) : Prop :=
  if drv.dmaAdma2 then drv.accepts (transfer blocks (totalSectors blocks)) = true
  else ∀ b rest, b :: rest <:+ blocks → drv.accepts (transfer (b :: rest) b.numSectors) = true

/-- A request that goes through: it can be answered, its segments fit, and its commands are
accepted. -/
structure Sound (req : Request) : Prop where
  answerable : req.cb ≠ none
  fits : oversized drv info req = false
  carriable : Carriable drv req.blocks

theorem accepts_of_transfer {c : Cmd} {blockcnt : U32} (word : c.cmd ∈ Mmc.inoutCommands)
    (data : c.flags.hasData = true) (blocks : c.blocks ≠ []) (count : c.blockcnt = blockcnt)
    (size : c.blocksize = 512) (carriable : drv.accepts (transfer c.blocks blockcnt) = true) :
    drv.accepts c = true := by
  rw [← carriable]
  refine drv.accepts_congr (transfer c.blocks blockcnt) c ?_ word rfl data blocks rfl count size
  simp [transfer, Mmc.inoutCommands, Mmc.transferCommands]

/-- What a slot needs so that each of its further commands is accepted. -/
structure Serviceable (c : Cmd) : Prop where
  inout : c.flags.inout = true
  answerable : c.cbIo ≠ none
  blocks : c.blocks ≠ []
  word : c.cmd ∈ Mmc.inoutCommands
  carriable : Carriable drv c.blocks
  /-- CMD23 carries no data and goes ahead of a command for the same number of blocks. -/
  announced : drv.dmaAdma2 = true → c.cmd = Mmc.cmd23SetBlockCount →
    c.flags.hasData = false ∧ c.blockcnt = totalSectors c.blocks
  accepted : c.status = .readyForSubmit → drv.accepts c = true
  phase : c.flags.hasData = false → c.status ≠ .progressData
  /-- CMD12 hands back the status of a command that ended. -/
  restorable : c.isCmd12 = true → c.statusCmd12 ≠ .readyForSubmit

/-- What `inoutWork` needs of a command that ended. -/
structure Continuable (c : Cmd) : Prop where
  inout : c.flags.inout = true
  answerable : c.cbIo ≠ none
  blocks : c.blocks ≠ []
  carriable : Carriable drv c.blocks
  announced : drv.dmaAdma2 = true → c.cmd = Mmc.cmd23SetBlockCount →
    c.blockcnt = totalSectors c.blocks

/-- A data command for accepted blocks. -/
theorem serviceable_data {c c' : Cmd} {blockcnt : U32} (base : Continuable drv c)
    (proceeds : Proceeds c c') (data : c'.flags.hasData = true) (blocks : c'.blocks = c.blocks)
    (count : c'.blockcnt = blockcnt) (size : c'.blocksize = 512)
    (other : c'.cmd ≠ Mmc.cmd23SetBlockCount)
    (accepted : drv.accepts (transfer c.blocks blockcnt) = true) : Serviceable drv c' where
  inout := proceeds.owner.inout.trans base.inout
  answerable := by rw [proceeds.owner.cbIo]; exact base.answerable
  blocks := by rw [blocks]; exact base.blocks
  word := proceeds.word
  carriable := by rw [blocks]; exact base.carriable
  announced := fun _ cmd23 => absurd cmd23 other
  accepted := fun _ => accepts_of_transfer drv proceeds.word data
    (by rw [blocks]; exact base.blocks) count size (by rw [blocks]; exact accepted)
  phase := fun noData => absurd (data.symm.trans noData) (by decide)
  restorable := fun stop => by cases (isCmd12_of_transfer proceeds.transfer).symm.trans stop

/-- A command without data. -/
theorem serviceable_nodata {c c' : Cmd} (base : Continuable drv c) (resumed : Resumed c c')
    (noData : c'.flags.hasData = false) (blocks : c'.blocks = c.blocks)
    (announced : drv.dmaAdma2 = true → c'.cmd = Mmc.cmd23SetBlockCount →
      c'.blockcnt = totalSectors c.blocks)
    (restorable : c'.isCmd12 = true → c'.statusCmd12 ≠ .readyForSubmit) :
    Serviceable drv c' where
  inout := resumed.owner.inout.trans base.inout
  answerable := by rw [resumed.owner.cbIo]; exact base.answerable
  blocks := by rw [blocks]; exact base.blocks
  word := resumed.word
  carriable := by rw [blocks]; exact base.carriable
  announced := fun adma cmd23 => ⟨noData, by rw [blocks]; exact announced adma cmd23⟩
  accepted := fun _ => drv.accepts_noData c' resumed.word noData
  phase := fun _ data => by cases resumed.ready.symm.trans data
  restorable := restorable

/-- The multiple block command for accepted blocks, as both transfer modes issue it. -/
theorem serviceable_multiple {c : Cmd} (base : Continuable drv c) (arg blockcnt : U32)
    (autoCmd23 : Bool) (accepted : drv.accepts (transfer c.blocks blockcnt) = true) :
    Serviceable drv
      (markCmd12 info (c.reinitInoutData (multipleBlock c) arg blockcnt 512 autoCmd23)) := by
  have proceeds := (proceeds_data c arg blockcnt 512 autoCmd23 (multipleBlock_mem c)).markCmd12 info
  obtain ⟨word, blocks, count, size, -, data⟩ :=
    markCmd12_fields info (c.reinitInoutData (multipleBlock c) arg blockcnt 512 autoCmd23)
  refine serviceable_data drv base proceeds (data.trans rfl) (blocks.trans rfl) (count.trans rfl)
    (size.trans rfl) ?_ accepted
  rw [word]
  exact multipleBlock_ne_cmd23 c

theorem carriable_adma2 {blocks : List Block} (adma : drv.dmaAdma2 = true)
    (carriable : Carriable drv blocks) :
    drv.accepts (transfer blocks (totalSectors blocks)) = true := by
  rwa [Carriable, if_pos adma] at carriable

theorem setBlockCountAdma2_serviceable {c : Cmd} (base : Continuable drv c)
    (adma : drv.dmaAdma2 = true) : Serviceable drv (setBlockCountAdma2 drv info c) := by
  have proceeds := setBlockCountAdma2_proceeds drv info c
  by_cases direct : (!info.hasCmd23 || drv.autoCmd23) = true
  · rw [setBlockCountAdma2_direct direct]
    exact serviceable_multiple drv info base _ _ _ (carriable_adma2 drv adma base.carriable)
  · rw [setBlockCountAdma2_announce direct] at proceeds ⊢
    exact serviceable_nodata drv base proceeds.toResumed rfl rfl (fun _ _ => rfl)
      (fun stop => by cases (isCmd12_of_transfer proceeds.transfer).symm.trans stop)

theorem handleIrqInoutAdma2_serviceable {c : Cmd} (base : Continuable drv c)
    (adma : drv.dmaAdma2 = true) (more : (handleIrqInoutAdma2 info c).2 = .moreWork) :
    Serviceable drv (handleIrqInoutAdma2 info c).1 := by
  by_cases cmd23 : c.cmd = Mmc.cmd23SetBlockCount
  · rw [handleIrqInoutAdma2_next cmd23]
    refine serviceable_multiple drv info base _ _ _ ?_
    rw [base.announced adma cmd23]
    exact carriable_adma2 drv adma base.carriable
  · rw [handleIrqInoutAdma2_done cmd23] at more
    cases more

theorem carriable_sdma {blocks rest : List Block} {b : Block} (sdma : drv.dmaAdma2 = false)
    (carriable : Carriable drv blocks) (suffix : b :: rest <:+ blocks) :
    drv.accepts (transfer (b :: rest) b.numSectors) = true := by
  have notAdma : ¬ drv.dmaAdma2 = true := by simp [sdma]
  rw [Carriable, if_neg notAdma] at carriable
  exact carriable b rest suffix

/-- Blocks at the end of an accepted list are accepted. -/
theorem carriable_suffix {blocks blocks' : List Block} (sdma : drv.dmaAdma2 = false)
    (carriable : Carriable drv blocks) (suffix : blocks' <:+ blocks) :
    Carriable drv blocks' := by
  have notAdma : ¬ drv.dmaAdma2 = true := by simp [sdma]
  rw [Carriable, if_neg notAdma]
  intro b rest inner
  exact carriable_sdma drv sdma carriable (inner.trans suffix)

theorem transferBlockSdma_serviceable {c : Cmd} (base : Continuable drv c)
    (sdma : drv.dmaAdma2 = false) : Serviceable drv (transferBlockSdma info c).1 := by
  have proceeds := (transferBlockSdma_proceeds info base.blocks).2
  cases list : c.blocks with
  | nil => exact absurd list base.blocks
  | cons b rest =>
    have accepted : drv.accepts (transfer c.blocks b.numSectors) = true := by
      rw [list]
      exact carriable_sdma drv sdma base.carriable (by rw [list])
    by_cases single : b.numSectors = 1
    · rw [transferBlockSdma_single list single] at proceeds ⊢
      refine serviceable_data drv base proceeds rfl rfl rfl rfl ?_ (single ▸ accepted)
      show (if c.flags.inoutRead then _ else _) ≠ _
      split <;> decide
    · by_cases announce : info.hasCmd23 = true ∧ c.cmd ≠ Mmc.cmd23SetBlockCount
      · rw [transferBlockSdma_announce list single announce] at proceeds ⊢
        refine serviceable_nodata drv base proceeds.toResumed rfl rfl (fun adma => ?_)
          (fun stop => by cases (isCmd12_of_transfer proceeds.transfer).symm.trans stop)
        rw [sdma] at adma
        cases adma
      · rw [transferBlockSdma_multiple list single announce]
        exact serviceable_multiple drv info base _ _ _ accepted

/-- The next block is at the end of the list, and its request is the same. -/
theorem continuable_advanced {c : Cmd} (base : Continuable drv c) (sdma : drv.dmaAdma2 = false)
    (left : (advanced c).blocks ≠ []) : Continuable drv (advanced c) := by
  have suffix : (advanced c).blocks <:+ c.blocks := by
    unfold advanced nextBlock
    split
    · split
      · exact List.suffix_rfl
      · rename_i b rest list
        rw [list]
        exact (List.dropWhile_suffix _).trans (List.suffix_cons b rest)
    · exact List.suffix_rfl
  have owner := advanced_owner c
  exact {
    inout := owner.inout.trans base.inout
    answerable := by rw [owner.cbIo]; exact base.answerable
    blocks := left
    carriable := carriable_suffix drv sdma base.carriable suffix
    announced := fun adma => by rw [sdma] at adma; cases adma }

theorem continuable_restored {c : Cmd} (base : Continuable drv c) :
    Continuable drv (restored c) := by
  unfold restored
  split
  · exact ⟨base.inout, base.answerable, base.blocks, base.carriable, base.announced⟩
  · exact base

theorem stopCommand_serviceable {c : Cmd} (base : Continuable drv c)
    (ended : c.status ≠ .readyForSubmit) : Serviceable drv (stopCommand c) := by
  refine serviceable_nodata drv base (stopCommand_resumed c) rfl rfl (fun _ cmd23 => ?_)
    (fun _ => ended)
  have other : (stopCommand c).cmd ≠ Mmc.cmd23SetBlockCount := by
    show (if c.flags.inoutRead then _ else _) ≠ _
    split <;> decide
  exact absurd cmd23 other

/-- More work means another command that is accepted. -/
theorem inoutWork_serviceable {c : Cmd} (base : Continuable drv c)
    (ended : c.status ≠ .readyForSubmit)
    (more : (inoutWork drv info c).2 = .moreWork) :
    Serviceable drv (inoutWork drv info c).1 := by
  by_cases stop : needsCmd12 drv c
  · rw [inoutWork_of_cmd12 drv info stop]
    exact stopCommand_serviceable drv base ended
  rw [inoutWork_of_not_cmd12 drv info stop] at more ⊢
  by_cases failed : (restored c).error = true
  · rw [if_pos failed] at more
    cases more
  rw [if_neg failed] at more ⊢
  have base' := continuable_restored drv base
  by_cases adma : drv.dmaAdma2 = true
  · rw [if_pos adma] at more ⊢
    exact handleIrqInoutAdma2_serviceable drv info base' adma more
  · rw [if_neg adma, handleIrqInoutSdma_eq] at more ⊢
    have sdma : drv.dmaAdma2 = false := by simpa using adma
    have left : (advanced (restored c)).blocks ≠ [] := by
      intro done
      rw [transferBlockSdma_done done] at more
      cases more
    exact transferBlockSdma_serviceable drv info (continuable_advanced drv base' sdma left) sdma

/-- The first command of a sound request is accepted. -/
theorem firstCommand_serviceable {req : Request} (sound : Sound drv info req) (c : Cmd) :
    Serviceable drv (firstCommand drv info req c) := by
  have base : Continuable drv (requested req c) := {
    inout := rfl
    answerable := sound.answerable
    blocks := List.cons_ne_nil _ _
    carriable := sound.carriable
    announced := fun _ cmd23 => absurd cmd23 (by show (0 : U32) ≠ _; decide) }
  unfold firstCommand
  cases adma : drv.dmaAdma2 with
  | true => exact setBlockCountAdma2_serviceable drv info base adma
  | false => exact transferBlockSdma_serviceable drv info base adma

/-- The first command does not depend on what the slot held before. -/
theorem firstCommand_congr (req : Request) (c c' : Cmd) :
    (firstCommand drv info req c').flags.hasData = (firstCommand drv info req c).flags.hasData ∧
    (firstCommand drv info req c').blocks = req.blocks ∧
    ((firstCommand drv info req c).flags.hasData = true →
      (firstCommand drv info req c').blockcnt = (firstCommand drv info req c).blockcnt ∧
      (firstCommand drv info req c').blocksize = (firstCommand drv info req c).blocksize) := by
  have multiple : ∀ (a a' : U32) (count : U32) (auto : Bool),
      (markCmd12 info ((requested req c').reinitInoutData (multipleBlock (requested req c')) a'
          count 512 auto)).flags.hasData =
        (markCmd12 info ((requested req c).reinitInoutData (multipleBlock (requested req c)) a
          count 512 auto)).flags.hasData ∧
      (markCmd12 info ((requested req c').reinitInoutData (multipleBlock (requested req c')) a'
          count 512 auto)).blocks = req.blocks ∧
      (markCmd12 info ((requested req c').reinitInoutData (multipleBlock (requested req c')) a'
          count 512 auto)).blockcnt =
        (markCmd12 info ((requested req c).reinitInoutData (multipleBlock (requested req c)) a
          count 512 auto)).blockcnt ∧
      (markCmd12 info ((requested req c').reinitInoutData (multipleBlock (requested req c')) a'
          count 512 auto)).blocksize =
        (markCmd12 info ((requested req c).reinitInoutData (multipleBlock (requested req c)) a
          count 512 auto)).blocksize := by
    intro a a' count auto
    unfold markCmd12
    split <;> exact ⟨rfl, rfl, rfl, rfl⟩
  unfold firstCommand
  by_cases adma : drv.dmaAdma2 = true
  · rw [if_pos adma, if_pos adma]
    by_cases direct : (!info.hasCmd23 || drv.autoCmd23) = true
    · rw [setBlockCountAdma2_direct direct, setBlockCountAdma2_direct direct]
      obtain ⟨data, blocks, counts⟩ := multiple (sectorArg info (requested req c))
        (sectorArg info (requested req c')) (totalSectors req.blocks)
        (info.hasCmd23 && drv.autoCmd23)
      exact ⟨data, blocks, fun _ => counts⟩
    · rw [setBlockCountAdma2_announce direct, setBlockCountAdma2_announce direct]
      exact ⟨rfl, rfl, fun data => absurd data Bool.false_ne_true⟩
  · rw [if_neg adma, if_neg adma]
    have list : (requested req c).blocks = req.first :: req.rest := rfl
    have list' : (requested req c').blocks = req.first :: req.rest := rfl
    by_cases single : req.first.numSectors = 1
    · rw [transferBlockSdma_single list single, transferBlockSdma_single list' single]
      exact ⟨rfl, rfl, fun _ => ⟨rfl, rfl⟩⟩
    · by_cases known : info.hasCmd23 = true
      · have cmd0 : (0 : U32) ≠ Mmc.cmd23SetBlockCount := by decide
        rw [transferBlockSdma_announce list single ⟨known, cmd0⟩,
          transferBlockSdma_announce list' single ⟨known, cmd0⟩]
        exact ⟨rfl, rfl, fun data => absurd data Bool.false_ne_true⟩
      · rw [transferBlockSdma_multiple list single (fun both => known both.1),
          transferBlockSdma_multiple list' single (fun both => known both.1)]
        obtain ⟨data, blocks, counts⟩ := multiple (sectorArg info (requested req c))
          (sectorArg info (requested req c')) req.first.numSectors false
        exact ⟨data, blocks, fun _ => counts⟩

/-- Whether the first command is accepted is decided by the request. -/
theorem accepts_firstCommand (req : Request) (c c' : Cmd) :
    drv.accepts (firstCommand drv info req c') = drv.accepts (firstCommand drv info req c) := by
  obtain ⟨sameData, blocks', counts⟩ := firstCommand_congr drv info req c c'
  obtain ⟨-, blocks, -⟩ := firstCommand_congr drv info req c c
  have word := (firstCommand_resumed drv info req c).2.1
  have word' := (firstCommand_resumed drv info req c').2.1
  cases data : (firstCommand drv info req c).flags.hasData with
  | true =>
    obtain ⟨count, size⟩ := counts data
    exact drv.accepts_congr _ _ word word' data (sameData.trans data)
      (by rw [blocks]; exact List.cons_ne_nil _ _) (blocks'.trans blocks.symm) count size
  | false =>
    rw [drv.accepts_noData _ word data, drv.accepts_noData _ word' (sameData.trans data)]

/-! ## The invariant -/

/-- Requests that wait for submission and will be accepted. -/
def Waiting (rest : List (Slot × Cmd)) : Prop :=
  ∀ entry ∈ rest, Serviceable drv entry.2 ∧ entry.2.status = .readyForSubmit

/-- The head is in flight and its interrupt is awaited; the others wait for submission. -/
def Attended (v : View) : Prop :=
  match v.pending with
  | [] => True
  | (_, c) :: rest =>
    Serviceable drv c ∧ c.progress = true ∧ v.irqMasked = false ∧ Waiting drv rest

theorem not_ready_of_progress {c : Cmd} (busy : c.progress = true) :
    c.status ≠ .readyForSubmit := by
  intro ready
  simp [Cmd.progress, ready] at busy

/-- A command keeps what it needs while the driver works on it. -/
theorem Serviceable.of_same {c c' : Cmd} (serviceable : Serviceable drv c)
    (same : c.SameRequest c') (notReady : c'.status ≠ .readyForSubmit)
    (phase : c.flags.hasData = false → c'.status ≠ .progressData ∧ c'.blockcnt = c.blockcnt) :
    Serviceable drv c' where
  inout := same.inout.trans serviceable.inout
  answerable := by rw [same.cbIo]; exact serviceable.answerable
  blocks := by rw [same.blocks]; exact serviceable.blocks
  word := by rw [same.cmd]; exact serviceable.word
  carriable := by rw [same.blocks]; exact serviceable.carriable
  announced := by
    intro adma cmd23
    rw [same.cmd] at cmd23
    obtain ⟨noData, count⟩ := serviceable.announced adma cmd23
    exact ⟨same.hasData.trans noData, by rw [(phase noData).2, same.blocks]; exact count⟩
  accepted := fun ready => absurd ready notReady
  phase := fun noData => (phase (same.hasData.symm.trans noData)).1
  restorable := by
    intro stop
    rw [Cmd.isCmd12, same.cmd] at stop
    rw [same.statusCmd12]
    exact serviceable.restorable stop

/-- Submitting the head of a queue of serviceable commands that wait. -/
theorem attended_of_kick {v v' : View} (kick : Kick drv v v')
    (waiting : Waiting drv v.pending) : Attended drv v' := by
  cases kick with
  | idle notReady =>
    cases list : v.pending with
    | nil => simp only [Attended, list]
    | cons head rest =>
      rcases head with ⟨slot, c⟩
      have ready := (waiting (slot, c) (by rw [list]; exact List.mem_cons_self)).2
      exact absurd ready (notReady slot c rest list)
  | submit ready accepted same busy blockcnt =>
    have head := (waiting _ List.mem_cons_self).1
    refine ⟨head.of_same drv same ?_ (fun _ => ⟨?_, blockcnt⟩), ?_, rfl, fun entry member =>
      waiting entry (List.mem_cons_of_mem _ member)⟩
    · rw [busy]
      decide
    · rw [busy]
      decide
    · simp [Cmd.progress, busy]

/-- The submission of a serviceable head does not fail. -/
theorem not_kickFails {v v' : View}
    (accepted : ∀ slot c rest, v.pending = (slot, c) :: rest →
      c.status = .readyForSubmit → drv.accepts c = true) : ¬ KickFails drv v v' := by
  intro fails
  cases fails with
  | refused ready refused =>
    exact Bool.false_ne_true (refused.symm.trans (accepted _ _ _ rfl ready))

/-- A sound request behind a head that is not waiting joins the queue. -/
theorem attended_accept {v v' : View} {slot slot' : Slot} {c c' : Cmd}
    {rest : List (Slot × Cmd)} (list : v.pending = (slot, c) :: rest)
    (notReady : c.status ≠ .readyForSubmit)
    (kick : Kick drv { v with pending := v.pending ++ [(slot', c')] } v') :
    v' = { v with pending := (slot, c) :: (rest ++ [(slot', c')]) } := by
  rw [list] at kick
  cases kick with
  | idle => rfl
  | submit ready => exact absurd ready notReady

/-! ## One operation -/

/-- A request that does no harm: it gets no slot, or it goes through, or it is refused on the spot
while nothing else is outstanding. -/
def Harmless (req : Request) (v : View) : Prop :=
  v.pending.length = entries - 1 ∨ Sound drv info req ∨
    v.pending = [] ∧
      (oversized drv info req = true ∨ drv.accepts (firstCommand drv info req {}) = false)

theorem Waiting.append {rest : List (Slot × Cmd)} (waiting : Waiting drv rest) {req : Request}
    (sound : Sound drv info req) (slot : Slot) (c : Cmd) :
    Waiting drv (rest ++ [(slot, firstCommand drv info req c)]) := by
  intro entry member
  rcases List.mem_append.mp member with old | last
  · exact waiting entry old
  · rw [List.mem_singleton.mp last]
    exact ⟨firstCommand_serviceable drv info sound c, (firstCommand_resumed drv info req c).1⟩

theorem attended_inout {req : Request} {v v' : View} {code : Int} (attended : Attended drv v)
    (harmless : Harmless drv info req v) (inout : Inout drv info req v code v') :
    Attended drv v' := by
  cases inout with
  | busy full => exact attended
  | @accepted w slot c room fits fresh kick =>
    show Attended drv w
    rcases harmless with full | sound | ⟨empty, large | refused⟩
    · exact absurd full room
    · have new := firstCommand_serviceable drv info sound c
      have ready := (firstCommand_resumed drv info req c).1
      cases list : v.pending with
      | nil =>
        rw [list] at kick
        refine attended_of_kick drv kick ?_
        intro entry member
        rw [List.mem_singleton.mp member]
        exact ⟨new, ready⟩
      | cons head rest =>
        rcases head with ⟨slot₀, c₀⟩
        simp only [Attended, list] at attended
        rcases attended with ⟨serviceable, busy, unmasked, waiting⟩
        rw [attended_accept drv list (not_ready_of_progress busy) kick]
        exact ⟨serviceable, busy, unmasked, waiting.append drv info sound slot c⟩
    · exact absurd (fits.symm.trans large) Bool.false_ne_true
    · rw [empty] at kick
      cases kick with
      | idle notReady =>
        exact absurd (firstCommand_resumed drv info req c).1 (notReady slot _ [] rfl)
      | submit ready accepted =>
        rw [accepts_firstCommand drv info req {} c, refused] at accepted
        cases accepted
  | oversized empty large =>
    simp only [Attended, empty]
  | refused empty fits fails => trivial

theorem not_escapes {req : Request} {v v' : View} (attended : Attended drv v)
    (harmless : Harmless drv info req v) : ¬ InoutEscapes drv info req v v' := by
  intro escapes
  have head : ∀ {slot : Slot} {c : Cmd} {w : View}, v.pending ≠ [] →
      ¬ KickFails drv { v with pending := v.pending ++ [(slot, c)] } w := by
    intro slot c w others fails
    cases list : v.pending with
    | nil => exact others list
    | cons head rest =>
      rcases head with ⟨slot₀, c₀⟩
      simp only [Attended, list] at attended
      rw [list] at fails
      cases fails with
      | refused ready => exact not_ready_of_progress attended.2.1 ready
  cases escapes with
  | oversized room others large =>
    rcases harmless with full | sound | ⟨empty, -⟩
    · exact room full
    · exact Bool.false_ne_true (sound.fits.symm.trans large)
    · exact others empty
  | refused room others fits fails => exact head others fails

/-- A call from inside a callback: the head ended and is not waiting, so the request only joins the
queue, or finds it full. -/
theorem nested_inout {req : Request} {v v' : View} {code : Int} {slot : Slot} {c : Cmd}
    {rest : List (Slot × Cmd)} (list : v.pending = (slot, c) :: rest)
    (notReady : c.status ≠ .readyForSubmit) (inout : Inout drv info req v code v') :
    (v.pending.length = entries - 1 ∧ v'.pending = v.pending) ∨
      v.pending.length ≠ entries - 1 ∧
        ∃ slot' c', v'.pending = (slot, c) :: (rest ++ [(slot', firstCommand drv info req c')]) := by
  cases inout with
  | busy full => exact Or.inl ⟨full, rfl⟩
  | @accepted w slot' c' room fits fresh kick =>
    have joined := attended_accept drv list notReady kick
    exact Or.inr ⟨room, slot', c', by rw [joined]⟩
  | oversized empty large =>
    rw [empty] at list
    cases list
  | refused empty fits fails =>
    rw [empty] at list
    cases list

/-- The calls of a callback that find a free slot. -/
def given (nested : List Request) (v : View) : List Request :=
  nested.take (entries - 1 - v.pending.length)

theorem given_cons {req : Request} {reqs : List Request} {v v' : View}
    (room : v.pending.length < entries - 1) (length : v'.pending.length = v.pending.length + 1) :
    given (req :: reqs) v = req :: given reqs v' := by
  have split : entries - 1 - v.pending.length = entries - 1 - v'.pending.length + 1 := by omega
  rw [given, split, List.take_succ_cons, given]

theorem nested_all {nested : List Request} {v v' : View} {slot : Slot} {c : Cmd}
    {rest : List (Slot × Cmd)} (list : v.pending = (slot, c) :: rest)
    (bound : v.pending.length ≤ entries - 1)
    (notReady : c.status ≠ .readyForSubmit) (waiting : Waiting drv rest)
    (sound : ∀ req ∈ given nested v, Sound drv info req)
    (calls : InoutAll drv info nested v v') :
    ∃ rest', v'.pending = (slot, c) :: rest' ∧ Waiting drv rest' := by
  induction calls generalizing rest with
  | nil => exact ⟨rest, list, waiting⟩
  | @cons req reqs v v₁ v₂ code head tail ih =>
    rcases nested_inout drv info list notReady head with ⟨full, same⟩ | ⟨room, slot', c', joined⟩
    · refine ih (same.trans list) (by rw [same]; exact bound) waiting ?_
      intro req member
      simp [given, same, full] at member
    · have length : v₁.pending.length = v.pending.length + 1 := by simp [joined, list]
      have less : v.pending.length < entries - 1 := by omega
      rw [given_cons less length] at sound
      refine ih joined (by omega) ?_ (fun req member => sound req (List.mem_cons_of_mem _ member))
      exact waiting.append drv info (sound req List.mem_cons_self) slot' c'

/-- None of the calls lets an exception escape. -/
theorem not_allEscapes {nested : List Request} {v v' : View} {slot : Slot} {c : Cmd}
    {rest : List (Slot × Cmd)} (list : v.pending = (slot, c) :: rest)
    (bound : v.pending.length ≤ entries - 1) (notReady : c.status ≠ .readyForSubmit)
    (sound : ∀ req ∈ given nested v, Sound drv info req) :
    ¬ InoutAllEscapes drv info nested v v' := by
  intro escapes
  induction escapes generalizing rest with
  | @here req reqs v v' escapes =>
    have fits : v.pending.length ≠ entries - 1 → oversized drv info req = false := by
      intro room
      have less : v.pending.length < entries - 1 := by omega
      have first : req ∈ given (req :: reqs) v := by
        obtain ⟨n, count⟩ : ∃ n, entries - 1 - v.pending.length = n + 1 :=
          Nat.exists_eq_succ_of_ne_zero (by omega)
        rw [given, count, List.take_succ_cons]
        exact List.mem_cons_self
      exact (sound req first).fits
    cases escapes with
    | oversized room others large => exact Bool.false_ne_true ((fits room).symm.trans large)
    | refused room others small fails =>
      rw [list] at fails
      cases fails with
      | refused ready => exact notReady ready
  | @later req reqs v v₁ v₂ code head tail ih =>
    rcases nested_inout drv info list notReady head with ⟨full, same⟩ | ⟨room, slot', c', joined⟩
    · refine ih (same.trans list) (by rw [same]; exact bound) ?_
      intro req member
      simp [given, same, full] at member
    · have length : v₁.pending.length = v.pending.length + 1 := by simp [joined, list]
      have less : v.pending.length < entries - 1 := by omega
      rw [given_cons less length] at sound
      exact ih joined (by omega) (fun req member => sound req (List.mem_cons_of_mem _ member))

/-! ## Interrupts -/

/-- A command in flight that ended has succeeded or failed. -/
theorem ended_status {c c' : Cmd} (serviceable : Serviceable drv c) (after : c.AfterIrq c')
    (ended : c'.progress = false) : c'.status = .success ∨ c'.failed = true := by
  rcases after.started (Cmd.isTuning_of_inout serviceable.word) with busy | outcome
  · exact absurd (ended.symm.trans busy) Bool.false_ne_true
  · exact outcome

/-- A command without data ends in its command phase. -/
theorem phase_of_after {c c' : Cmd} (serviceable : Serviceable drv c) (busy : c.progress = true)
    (after : c.AfterIrq c') (noData : c.flags.hasData = false) :
    c'.status ≠ .progressData ∧ c'.blockcnt = c.blockcnt := by
  have inCmd : c.status = .progressCmd := by
    rcases (Cmd.progress_iff c).mp busy with cmd | data
    · exact cmd
    · exact absurd data (serviceable.phase noData)
  exact after.noData (Cmd.isTuning_of_inout serviceable.word) noData inCmd

/-- A command that ended can be followed by the next one. -/
theorem Serviceable.continuable {c c' : Cmd} (serviceable : Serviceable drv c)
    (busy : c.progress = true) (after : c.AfterIrq c') : Continuable drv c' where
  inout := after.same.inout.trans serviceable.inout
  answerable := by rw [after.same.cbIo]; exact serviceable.answerable
  blocks := by rw [after.same.blocks]; exact serviceable.blocks
  carriable := by rw [after.same.blocks]; exact serviceable.carriable
  announced := by
    intro adma cmd23
    rw [after.same.cmd] at cmd23
    obtain ⟨noData, count⟩ := serviceable.announced adma cmd23
    rw [(phase_of_after drv serviceable busy after noData).2, after.same.blocks]
    exact count

/-- The head ended; its request goes on or is answered, and the next head is submitted. -/
theorem attended_resume {nested : List Request} {v v' : View} {slot : Slot} {c : Cmd}
    {rest : List (Slot × Cmd)} (list : v.pending = (slot, c) :: rest)
    (bound : v.pending.length ≤ entries - 1) (base : Continuable drv c)
    (ended : c.status ≠ .readyForSubmit) (restored : (restored c).status ≠ .readyForSubmit)
    (waiting : Waiting drv rest) (sound : ∀ req ∈ given nested v, Sound drv info req) :
    (Resume drv info nested v v' → Attended drv v') ∧ ¬ ResumeFails drv info nested v v' := by
  have next : (inoutWork drv info c).2 = .moreWork →
      Waiting drv ((slot, (inoutWork drv info c).1) :: rest) := by
    intro more entry member
    rcases List.mem_cons.mp member with rfl | old
    · exact ⟨inoutWork_serviceable drv info base ended more,
        (inoutWork_resumed drv info more).ready⟩
    · exact waiting entry old
  have notReady : ∀ {code size}, (inoutWork drv info c).2 = .workDone code size →
      (inoutWork drv info c).1.status ≠ .readyForSubmit := by
    intro code size done
    rw [(inoutWork_done drv info done).2.2.1]
    exact restored
  have accepted : ∀ {entries : List (Slot × Cmd)}, Waiting drv entries →
      ∀ slot c rest, entries = (slot, c) :: rest → c.status = .readyForSubmit →
        drv.accepts c = true := by
    intro entries all slot c rest head ready
    exact (all (slot, c) (by rw [head]; exact List.mem_cons_self)).1.accepted ready
  have called : ∀ {masked : Bool} {log : List Event},
      (⟨(slot, (inoutWork drv info c).1) :: rest, masked, log⟩ : View).pending.length =
        v.pending.length := by
    intro masked log
    rw [list]
    rfl
  have sound' : ∀ {masked : Bool} {log : List Event}, ∀ req ∈ given nested
      ⟨(slot, (inoutWork drv info c).1) :: rest, masked, log⟩, Sound drv info req := by
    intro masked log req member
    rw [given, called] at member
    exact sound req member
  apply And.intro
  · intro resume
    cases resume with
    | next context more kick =>
      cases list
      exact attended_of_kick drv kick (next more)
    | done context done calls kick =>
      cases list
      obtain ⟨rest', list', waiting'⟩ :=
        nested_all drv info rfl (called.trans_le bound) (notReady done) waiting sound' calls
      cases list'
      exact attended_of_kick drv kick waiting'
  · intro fails
    cases fails with
    | noContext noContext =>
      cases list
      exact base.answerable noContext
    | next context more fails =>
      cases list
      exact not_kickFails drv (accepted (next more)) fails
    | call context done escapes =>
      cases list
      exact not_allEscapes drv info rfl (called.trans_le bound) (notReady done) sound' escapes
    | done context done calls fails =>
      cases list
      obtain ⟨rest', list', waiting'⟩ :=
        nested_all drv info rfl (called.trans_le bound) (notReady done) waiting sound' calls
      cases list'
      exact not_kickFails drv (accepted waiting') fails

theorem attended_interrupt {irq : Irq} {nested : List Request} {v v' : View}
    (attended : Attended drv v) (bound : v.pending.length ≤ entries - 1)
    (faultless : ∀ slot c rest, v.pending = (slot, c) :: rest → drv.faultless irq c = true)
    (sound : ∀ req ∈ given nested v, Sound drv info req)
    (interrupt : Interrupt drv info irq nested v v') : Attended drv v' := by
  -- the head was in flight, and it ended without a fault
  have resumed : ∀ {slot : Slot} {c c' : Cmd} {rest : List (Slot × Cmd)} {log : List Event},
      v.pending = (slot, c) :: rest → Handled c c' → c'.progress = false →
      (Resume drv info nested ⟨(slot, c') :: rest, true, log⟩ v' → Attended drv v') ∧
        ¬ ResumeFails drv info nested ⟨(slot, c') :: rest, true, log⟩ v' := by
    intro slot c c' rest log list handled ended
    simp only [Attended, list] at attended
    rcases attended with ⟨serviceable, busy, -, waiting⟩
    have after := handled.busy busy
    have notReady : c'.status ≠ .readyForSubmit := by
      rcases ended_status drv serviceable after ended with success | failed
      · rw [success]
        decide
      · exact Cmd.not_ready_of_failed failed
    have length : ((slot, c') :: rest).length = v.pending.length := by rw [list]; rfl
    refine attended_resume drv info rfl (by rw [length]; exact bound)
      (serviceable.continuable drv busy after) notReady ?_ waiting
      (fun req member => sound req (by rwa [given, length] at member))
    unfold restored
    split
    · rename_i stop
      rw [Cmd.isCmd12, after.same.cmd] at stop
      show c'.statusCmd12 ≠ _
      rw [after.same.statusCmd12]
      exact serviceable.restorable stop
    · exact notReady
  cases interrupt with
  | spurious empty => simp only [Attended, empty]
  | fault busy fault same =>
    exact absurd ((faultless _ _ _ rfl).symm.trans fault) (by decide)
  | running handled running =>
    rcases attended with ⟨serviceable, busy, -, waiting⟩
    have after := handled.busy busy
    exact ⟨serviceable.of_same drv after.same (not_ready_of_progress running)
      (phase_of_after drv serviceable busy after), running, rfl, waiting⟩
  | inout handled ended inout resume => exact (resumed rfl handled ended).1 resume
  | inoutFails handled ended inout fails => exact absurd fails (resumed rfl handled ended).2
  | other handled ended other =>
    have inout := handled.same.inout.trans attended.1.inout
    exact absurd (other.symm.trans inout) Bool.false_ne_true

/-! ## Runs -/

/-- The queue is empty, or its head is in flight and the interrupt has been unmasked since it was
delivered. -/
def Served (d : Device H Irq) : Prop :=
  d.queue.outstanding = [] ∨
    ∃ slot, d.queue.working? = some slot ∧ (d.queue.cmds slot).progress = true ∧
      d.irqMasked = false

/-- The operations that do not throw in the middle. -/
def Smooth : Op Irq → Device H Irq → Prop
  | .inout req, d => Harmless drv info req d.view
  | .irq irq nested, d =>
    (∀ slot, d.queue.working? = some slot → drv.faultless irq (d.queue.cmds slot) = true) ∧
      ∀ req ∈ given nested d.view, Sound drv info req
  | .flush _ _, _ => False

theorem smooth_inout {req : Request} {d : Device H Irq} (sound : Sound drv info req) :
    Smooth drv info (.inout req) d :=
  Or.inr (Or.inl sound)

theorem smooth_irq {irq : Irq} {d : Device H Irq} {slot : Slot} (working : d.queue.working? = some slot)
    (faultless : drv.faultless irq (d.queue.cmds slot) = true) : Smooth drv info (.irq irq []) d := by
  apply And.intro
  · intro other head
    rw [working] at head
    cases head
    exact faultless
  · intro req member
    rw [given, List.take_nil] at member
    cases member

theorem served_of_attended {d : Device H Irq} (settled : d.queue.Settled)
    (attended : Attended drv d.view) : Served d := by
  cases list : d.queue.pending with
  | nil => exact Or.inl (CmdQueue.pending_eq_nil.mp list)
  | cons head rest =>
    rcases head with ⟨slot, c⟩
    obtain ⟨working, cmd⟩ := settled.head_of_pending list
    simp only [Attended, view, list] at attended
    exact Or.inr ⟨slot, working, by rw [cmd]; exact attended.2.1, attended.2.2.1⟩

theorem attended_step {op : Op Irq} {d : Device H Irq} (settled : d.queue.Settled)
    (attended : Attended drv d.view) (smooth : Smooth drv info op d) :
    Attended drv (step drv info op d).view := by
  refine after_of_wp (P := fun d' : Device H Irq => Attended drv d'.view) ?_
  cases op with
  | inout req =>
    rw [exec, wp_callInout]
    exact (inoutData_spec drv info settled req).mono
      (fun _ _ post => attended_inout drv info attended smooth post.2)
      (fun _ _ post => absurd post.2 (not_escapes drv info attended smooth))
  | irq irq nested =>
    have bound : d.view.pending.length ≤ entries - 1 := by
      have less := CmdQueue.distance_lt d.queue.destruct d.queue.create
      rw [← d.queue.length_outstanding, ← d.queue.length_pending] at less
      exact Nat.le_sub_one_of_lt less
    have faultless : ∀ slot c rest, d.view.pending = (slot, c) :: rest →
        drv.faultless irq c = true := by
      intro slot c rest list
      obtain ⟨working, cmd⟩ := settled.head_of_pending list
      exact cmd ▸ smooth.1 slot working
    exact (handleIrq_spec drv info irq nested settled).mono
      (fun _ _ post => attended_interrupt drv info attended bound faultless smooth.2 post.2)
      (fun _ _ absurd => absurd.elim)
  | flush irqs cb => exact smooth.elim

/-- Along every run of smooth operations, no accepted request is stranded. -/
theorem served_run (ops : List (Op Irq)) (h : H)
    (smooth : Runs.Along (step drv info) (Smooth drv info) ops (start h)) :
    Runs.Along (step drv info) (fun op d => Served (step drv info op d)) ops (start h) := by
  have initial : Attended drv (start h : Device H Irq).view := by
    have empty : (start h : Device H Irq).queue.pending = [] := rfl
    simp only [Attended, view, empty]
  have both := Runs.along_invariant
    (I := fun d : Device H Irq => d.queue.Settled ∧ Attended drv d.view)
    (fun op d inv smooth =>
      ⟨settled_step drv info op inv.1, attended_step drv info inv.1 inv.2 smooth⟩)
    ⟨settled_start h, initial⟩ smooth
  exact both.mono (fun op d inv => served_of_attended drv inv.1 inv.2)

end Device

end Emmc
