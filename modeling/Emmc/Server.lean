import Emmc.Device.Address
import Emmc.Device.Atomic
import Emmc.Device.Bytes
import Emmc.Device.Life
import Emmc.Device.Protocol
import Emmc.Device.Served
import Emmc.Sdhci.Flush
import Emmc.Sdhci.Storm

/-!
# The server

What the device promises its clients over whole runs, from the device after initialisation on. The
device is generic in its driver; the runs shown beside the results use the driver for SDHCI
controllers.

* `served_along`: no request is stranded as long as nothing throws in the middle of an operation.
* `failure_atomic_iff`: when a failing request leaves no trace.
* `flush_safe_iff`: when a flush leaves the requests in flight alone.
* `requests_complete`: requests are completed once and in order.
* `request_follows_protocol`: the commands of a request move its sectors, each transfer bounded once.
* `reported_size_iff`: when the size reported with a success is that of the request.
* `card_errors_reported_iff`: when an error that the card reports reaches the callback.
* `addresses_exact`: no request within the capacity hits the wrong address of the card.
* `no_storm_iff`: when an interrupt of an SDHCI controller does not come back unchanged.
-/

namespace Emmc

open Throwing Device

namespace Server

open Sdhci (Hw unbuffered unchained answering readOne)

variable {H Irq : Type}

/-- The device of the runs below. -/
def flushable : DeviceInfo := { maxSeg := 64, hasCache := true }

/-- The device while it reads one sector. -/
def reading : Device Hw Sdhci.Irq :=
  Runs.run (step unbuffered.hwDrv flushable) [readOne] (start {})

theorem reading_outstanding : reading.queue.outstanding = [0] := by rfl

theorem reading_free : reading.queue.isFull = false := by rfl

theorem reading_busy : (reading.queue.cmds 0).progress = true := by rfl

/-! ## No request is stranded -/

/-- With an SDHCI controller, after every operation of a run of smooth operations the queue is empty,
or its head is in flight and the interrupt is unmasked. -/
theorem served_along (s : Sdhci) (info : DeviceInfo) (ops : List (Op Sdhci.Irq)) (h : Hw)
    (smooth : Runs.Along (step s.hwDrv info) (Smooth s.hwDrv info) ops (start h)) :
    Runs.Along (step s.hwDrv info) (fun op d => Served (step s.hwDrv info op d)) ops (start h) :=
  served_run s.hwDrv info ops h smooth

/-- Two requests are read one after the other; the first command fails and its line is reset. -/
theorem two_requests_served :
    Runs.Along (step unbuffered.hwDrv flushable)
      (fun op d => Served (step unbuffered.hwDrv flushable op d))
      [readOne, readOne, .irq (answering 0x10000 0) [], .irq (answering 1 0) []] (start {}) := by
  have adma : unbuffered.hwDrv.dmaAdma2 = true := rfl
  have sound : Sound unbuffered.hwDrv flushable
      { sector := 0, first := ⟨0x1000, 0x1000, 1⟩, rest := [], cb := some 5, read := true } :=
    ⟨by decide, by decide, by rw [Carriable, if_pos adma]; rfl⟩
  refine served_along unbuffered flushable _ {}
    ⟨Or.inr (Or.inl sound), Or.inr (Or.inl sound), ⟨?_, ?_⟩, ⟨?_, ?_⟩, trivial⟩
  · decide +kernel
  · intro req member
    cases member
  · decide +kernel
  · intro req member
    cases member

/-- The controller reports a timeout, and the command line cannot be reset. -/
def stuck : Sdhci.Irq := { answering 0x10000 0 with rstcDone := false }

/-- The exception ends in `handleIrq`: the request stays at the head of the queue, not in flight,
and the interrupt stays masked. -/
theorem timeout_strands :
    ¬ Runs.Along (step unbuffered.hwDrv flushable)
      (fun op d => Served (step unbuffered.hwDrv flushable op d)) [readOne, .irq stuck []]
      (start {}) := by
  intro given
  rcases given with ⟨-, served, -⟩
  have outcome : (step unbuffered.hwDrv flushable (.irq stuck []) reading).queue.outstanding = [0] ∧
      (step unbuffered.hwDrv flushable (.irq stuck []) reading).irqMasked = true :=
    ⟨by rfl, by rfl⟩
  rcases served with empty | ⟨slot, -, -, unmasked⟩
  · cases outcome.1.symm.trans empty
  · cases outcome.2.symm.trans unmasked

/-! ## Failing requests -/

variable (drv : HwDrv H Irq) (info : DeviceInfo)

/-- In every reachable state, a failing request leaves no trace if and only if it got no slot, or no
other command was outstanding, or its segments fit and nothing but itself can be refused. -/
theorem failure_atomic_iff (h : H) (ops : List (Op Irq)) (req : Request) :
    FailsAtomically drv info req (Runs.run (step drv info) ops (start h)) ↔
      CleanlyRefused drv info req (Runs.run (step drv info) ops (start h)) :=
  failsAtomically_iff drv info req (settled_run drv info ops h)

/-- A segment of 64 MiB. -/
def tooLarge : Request :=
  { sector := 0, first := ⟨0x1000, 0x1000, 0x20000⟩, rest := [], cb := some 6, read := true }

/-- Beside a request in flight, the request that is too large is never answered and keeps its
slot. -/
theorem tooLarge_escapes :
    ¬ FailsAtomically unbuffered.hwDrv flushable tooLarge reading ∧
      (step unbuffered.hwDrv flushable (.inout tooLarge) reading).queue.outstanding = [0, 1] ∧
      (step unbuffered.hwDrv flushable (.inout tooLarge) reading).log = reading.log := by
  refine ⟨?_, by rfl, by rfl⟩
  have settled : reading.queue.Settled :=
    settled_run unbuffered.hwDrv flushable [readOne] {}
  have large : oversized unbuffered.hwDrv flushable tooLarge = true := by decide
  rw [failsAtomically_iff _ _ _ settled, CleanlyRefused, reading_free, reading_outstanding, large]
  intro given
  rcases given with full | empty | ⟨fits, -⟩
  · cases full
  · cases empty
  · cases fits

/-! ## Flushing beside requests -/

/-- In every reachable state and whatever interrupts come, a flush is safe if and only if no request
is queued or in flight, or the queue is full and refuses it. -/
theorem flush_safe_iff (cache : info.hasCache = true) (h : H) (ops : List (Op Irq))
    (irqs : List Irq) (cb : Callback) :
    FlushSafe drv info irqs cb (Runs.run (step drv info) ops (start h)) ↔
      (Runs.run (step drv info) ops (start h)).queue.outstanding = [] ∨
      (Runs.run (step drv info) ops (start h)).queue.isFull = true :=
  flushSafe_iff drv info cache irqs cb (settled_run drv info ops h)

/-- After the request has been answered, a flush that fails leaves nothing behind. -/
theorem idle_flush_safe :
    FlushSafe unbuffered.hwDrv flushable [answering 1 0, answering 0x10000 0] 7
      (Runs.run (step unbuffered.hwDrv flushable)
        [readOne, .irq (answering 1 0) [], .irq (answering 3 0) []] (start {})) := by
  rw [flush_safe_iff unbuffered.hwDrv flushable rfl]
  apply Or.inl
  rfl

/-- Beside a request in flight, a flush that the card completes keeps its slot. -/
theorem flush_beside_request :
    ¬ FlushSafe unbuffered.hwDrv flushable [answering 1 0, answering 1 0x100] 7 reading ∧
      (step unbuffered.hwDrv flushable (.flush [answering 1 0, answering 1 0x100] 7)
        reading).queue.outstanding = [0, 1] := by
  refine ⟨?_, by decide_cbv⟩
  have settled : reading.queue.Settled :=
    settled_run unbuffered.hwDrv flushable [readOne] {}
  rw [flushSafe_iff _ _ rfl _ _ settled, reading_free, reading_outstanding]
  intro given
  rcases given with empty | full
  · cases empty
  · cases full

/-! ## Completion -/

/-- Requests with segments of the advertised size are completed once and in order, in every run in
which no driver call throws. -/
theorem requests_complete {ops : List (Op Irq)} (fits : ∀ op ∈ ops, Fits drv info op) (h : H)
    (calm : Calm (Runs.run (step drv info) ops (start h)).log) :
    Completes drv info (Runs.run (step drv info) ops (start h)) :=
  completes_of_ledger drv info (replied_run drv info ops h) (completion_run drv info fits h calm)

/-- Write two sectors. -/
def writeTwo : Request :=
  { sector := 8, first := ⟨0x3000, 0x3000, 2⟩, rest := [], cb := some 9, read := false }

/-- The events of three requests, the last one first. -/
def threeEvents : List Event :=
  [.submitted 2 ⟨Mmc.cmd25WriteMultipleBlock, 8, 2, true, false⟩,
    .ended 2 Mmc.cmd23SetBlockCount .success 0,
    .submitted 2 ⟨Mmc.cmd23SetBlockCount, 2, 2, false, false⟩, .callback 1 9 (-L4.eio) 0,
    .ended 1 Mmc.cmd23SetBlockCount .cmdTimeout 0,
    .submitted 1 ⟨Mmc.cmd23SetBlockCount, 2, 2, false, false⟩, .returned (some 2) (some 9) L4.eok,
    .callback 0 5 L4.eok 0, .ended 0 Mmc.cmd18ReadMultipleBlock .success 0,
    .submitted 0 ⟨Mmc.cmd18ReadMultipleBlock, 0, 1, true, false⟩,
    .ended 0 Mmc.cmd23SetBlockCount .success 0, .returned (some 1) (some 9) L4.eok,
    .returned (some 0) (some 5) L4.eok,
    .submitted 0 ⟨Mmc.cmd23SetBlockCount, 1, 1, false, false⟩]

/-- Three requests; the last one is made from inside the callback of the first one, and the second
one fails. -/
theorem three_requests_complete :
    Completes unbuffered.hwDrv flushable
      (Runs.run (step unbuffered.hwDrv flushable)
        [readOne, .inout writeTwo, .irq (answering 1 0) [], .irq (answering 3 0) [writeTwo],
          .irq (answering 0x10000 0) [], .irq (answering 1 0) []] (start {})) := by
  refine requests_complete unbuffered.hwDrv flushable ?_ {} ?_
  · have first : Fits unbuffered.hwDrv flushable readOne := by
      rw [readOne, Fits]
      decide
    have later : oversized unbuffered.hwDrv flushable writeTwo = false := by decide
    have silent : ∀ irq, Fits unbuffered.hwDrv flushable (.irq irq []) := by
      intro irq req member
      cases member
    have calls : ∀ irq, Fits unbuffered.hwDrv flushable (.irq irq [writeTwo]) := by
      intro irq req member
      rw [List.mem_singleton.mp member]
      exact later
    intro op member
    simp only [List.mem_cons, List.not_mem_nil, or_false] at member
    rcases member with rfl | rfl | rfl | rfl | rfl | rfl
    · exact first
    · exact later
    · exact silent _
    · exact calls _
    · exact silent _
    · exact silent _
  · have log : (Runs.run (step unbuffered.hwDrv flushable)
        [readOne, .inout writeTwo, .irq (answering 1 0) [], .irq (answering 3 0) [writeTwo],
          .irq (answering 0x10000 0) [], .irq (answering 1 0) []] (start {})).log = threeEvents := by
      decide_cbv
    rw [log, Calm]
    decide

/-! ## The protocol -/

/-- A request that is accepted by an idle device follows the protocol in every run in which each
command succeeds. -/
theorem request_follows_protocol (noAuto : drv.autoCmd12 = false) (ops : List (Op Irq)) (h : H)
    (idle : (Runs.run (step drv info) ops (start h)).queue.outstanding = []) {req : Request}
    {cb : Callback} (context : req.cb = some cb) (fits : oversized drv info req = false)
    (sized : ∀ b ∈ req.blocks, 1 ≤ b.numSectors.toNat)
    (total : (blockSizes req.blocks).sum < 2 ^ 16) (irqs : List Irq) {new : List Event}
    (log : (Runs.run (step drv info) (.inout req :: irqs.map (.irq · []))
        (Runs.run (step drv info) ops (start h))).log =
      new ++ (Runs.run (step drv info) ops (start h)).log)
    (succeeds : Succeeds new) :
    Protocol drv info req cb new
      (Runs.run (step drv info) (.inout req :: irqs.map (.irq · []))
        (Runs.run (step drv info) ops (start h))) :=
  protocol_run drv info noAuto (settled_run drv info ops h) idle context fits sized total irqs log
    succeeds

/-- Write two blocks, of two sectors and of one. -/
def writeBlocks : Request :=
  { sector := 8, first := ⟨0x3000, 0x3000, 2⟩, rest := [⟨0x5000, 0x5000, 1⟩], cb := some 9,
    read := false }

/-- The events of this request: CMD23, CMD25 and CMD24, then the callback. -/
def writeEvents : List Event :=
  [.callback 0 9 L4.eok 1536, .ended 0 Mmc.cmd24WriteBlock .success 0,
    .submitted 0 ⟨Mmc.cmd24WriteBlock, 10, 1, true, false⟩,
    .ended 0 Mmc.cmd25WriteMultipleBlock .success 0,
    .submitted 0 ⟨Mmc.cmd25WriteMultipleBlock, 8, 2, true, false⟩,
    .ended 0 Mmc.cmd23SetBlockCount .success 0, .returned (some 0) (some 9) L4.eok,
    .submitted 0 ⟨Mmc.cmd23SetBlockCount, 2, 0, false, false⟩]

/-- The operations that write these blocks. -/
def writeOps : List (Op Sdhci.Irq) :=
  .inout writeBlocks :: [answering 1 0, answering 3 0, answering 3 0].map (.irq · [])

theorem writeBlocks_log :
    (Runs.run (step unchained.hwDrv flushable) writeOps (start {})).log = writeEvents := by
  decide_cbv

theorem writeBlocks_follows_protocol :
    Protocol unchained.hwDrv flushable writeBlocks 9 writeEvents
      (Runs.run (step unchained.hwDrv flushable)
        (.inout writeBlocks :: [answering 1 0, answering 3 0, answering 3 0].map (.irq · []))
        (Runs.run (step unchained.hwDrv flushable) [] (start {}))) := by
  have calm : Calm writeEvents := by
    rw [Calm]
    decide
  have success : ∀ e ∈ writeEvents, ∀ slot cmd status resp0,
      e = .ended slot cmd status resp0 → status = .success := by
    intro e member slot cmd status resp0 ended
    simp only [writeEvents, List.mem_cons, List.not_mem_nil, or_false] at member
    rcases member with same | same | same | same | same | same | same | same <;>
      cases same.symm.trans ended <;> rfl
  exact request_follows_protocol unchained.hwDrv flushable rfl [] {} rfl rfl (by decide)
    (by decide) (by decide) _ writeBlocks_log
    ⟨calm, fun slot cmd status resp0 member => success _ member slot cmd status resp0 rfl⟩

/-- One sector is read by CMD17 in SDMA mode, by CMD23 and CMD18 in ADMA2 mode. -/
example :
    (Runs.run (step unchained.hwDrv flushable)
      [readOne, .irq (answering 1 0) [], .irq (answering 3 0) []] (start {})).log.length = 4 ∧
    (Runs.run (step unbuffered.hwDrv flushable)
      [readOne, .irq (answering 1 0) [], .irq (answering 3 0) []] (start {})).log.length = 6 := by
  decide +kernel

/-! ## The size of a completed request -/

/-- In every run, all requests with callback `cb` having the same blocks, the size reported with a
success is the size of these blocks if and only if they are moved in SDMA mode and their number of
sectors fits 32 bits, or they are moved in ADMA2 mode and there are no sectors. -/
theorem reported_size_iff {ops : List (Op Irq)} {cb : Callback} {blocks : List Block}
    (named : ∀ op ∈ ops, ∀ req ∈ op.requests, req.cb = some cb → req.blocks = blocks) (h : H)
    {slot : Slot} {size : U64}
    (called : .callback slot cb L4.eok size ∈ (Runs.run (step drv info) ops (start h)).log) :
    size.toNat = sectorSize * (blockSizes blocks).sum ↔
      drv.dmaAdma2 = false ∧ (blockSizes blocks).sum < 2 ^ 32 ∨
        drv.dmaAdma2 = true ∧ (blockSizes blocks).sum = 0 := by
  rw [reported_run named h called]
  exact reported_eq_iff blocks

theorem writeBlocks_named :
    ∀ op ∈ writeOps, ∀ req ∈ op.requests, req.cb = some 9 → req.blocks = writeBlocks.blocks := by
  intro op member req made _
  simp only [writeOps, List.map_cons, List.map_nil, List.mem_cons, List.not_mem_nil,
    or_false] at member
  rcases member with rfl | rfl | rfl | rfl
  · rw [List.mem_singleton.mp made]
  all_goals cases made

/-- In SDMA mode, three sectors are reported. -/
theorem writeBlocks_reported :
    (1536 : U64).toNat = sectorSize * (blockSizes writeBlocks.blocks).sum := by
  have called : .callback 0 9 L4.eok 1536 ∈
      (Runs.run (step unchained.hwDrv flushable) writeOps (start {})).log := by
    rw [writeBlocks_log]
    exact List.mem_cons_self
  rw [reported_size_iff unchained.hwDrv flushable writeBlocks_named {} called]
  exact Or.inl (by decide)

/-- In ADMA2 mode, a sector that was read is not reported. -/
theorem readOne_reports_nothing :
    Event.callback 0 5 L4.eok 0 ∈ (Runs.run (step unbuffered.hwDrv flushable)
        [readOne, .irq (answering 1 0) [], .irq (answering 3 0) []] (start {})).log ∧
      (0 : U64).toNat ≠ sectorSize * (blockSizes [⟨0x1000, 0x1000, 1⟩]).sum := by
  apply And.intro
  · apply List.mem_of_mem_head?
    rfl
  · decide

/-! ## Errors that the card reports -/

/-- However the commands of a request end: that one of them was rejected by the card keeps the
callback from reporting a success if and only if none was, or a CMD23 or data command failed by
itself. -/
theorem card_errors_reported_iff {req : Request} {past : List Cmd} {code : Int} {size : U64}
    (ends : Ends drv info req past code size) :
    ((∃ p ∈ past, p.Rejected) → code ≠ L4.eok) ↔
      (∀ p ∈ past, ¬ p.Rejected) ∨ ∃ p ∈ past, p.isCmd12 = false ∧ p.error = true :=
  ends.rejected_iff req

/-- Read one sector, as a request. -/
def readSector : Request :=
  { sector := 0, first := ⟨0x1000, 0x1000, 1⟩, rest := [], cb := some 5, read := true }

/-- CMD17 of this request after it was accepted by the card. -/
def sectorRead : Cmd :=
  let c := firstCommand unchained.hwDrv flushable readSector {}
  { c with status := .success, resp := fun _ => 0x900,
           flags := { c.flags with hasR1Response := true } }

theorem readSector_ends : Ends unchained.hwDrv flushable readSector [sectorRead] L4.eok 512 :=
  .done (.first {}) (by constructor <;> rfl) (by rfl) (by rfl)

/-- The card is in the transfer state and reports no error. -/
theorem readSector_accepted :
    ((∃ p ∈ [sectorRead], p.Rejected) → L4.eok ≠ L4.eok) ↔
      (∀ p ∈ [sectorRead], ¬ p.Rejected) ∨
        ∃ p ∈ [sectorRead], p.isCmd12 = false ∧ p.error = true :=
  card_errors_reported_iff unchained.hwDrv flushable readSector_ends

/-- CMD18 ends with a general error in its response; the callback reports a success. -/
theorem readOne_hides_error :
    let log := (Runs.run (step unbuffered.hwDrv flushable)
      [readOne, .irq (answering 1 0) [], .irq (answering 3 0x80900) []] (start {})).log
    .ended 0 Mmc.cmd18ReadMultipleBlock .success 0x80900 ∈ log ∧
      Mmc.DeviceStatus.error.test 0x80900 = true ∧ .callback 0 5 L4.eok 0 ∈ log := by
  refine ⟨?_, rfl, ?_⟩
  · apply List.mem_of_getElem? (i := 1)
    rfl
  · apply List.mem_of_mem_head?
    rfl

/-! ## Addresses -/

variable {drv info}

/-- Of a supported card, each data command that a request within the capacity comes to has the exact
address of the first block that is left, in every run as long as it is not answered; no two sectors
have the same address. -/
theorem addresses_exact {card : Card} (supported : card.Supported)
    (mult : info.addrMult = card.addrMult) :
    (∀ {req : Request} {past : List Cmd} {c : Cmd}, Within card req → Life drv info req past c →
      c.flags.hasData = true → Exact info req c) ∧
    (∀ {ops : List (Op Irq)} (h : H) {slot : Slot},
      (∀ op ∈ ops, ∀ req ∈ op.requests, Within card req) →
      let d := Runs.run (step drv info) ops (start h)
      (d.queue.cmds slot).flags.inout = true → (d.queue.cmds slot).flags.hasData = true →
      (∀ cb code size, (d.queue.cmds slot).cbIo = some cb →
        Event.callback slot cb code size ∉ d.log) →
      ∃ op ∈ ops, ∃ req ∈ op.requests, Exact info req (d.queue.cmds slot)) ∧
    ∀ {a b : Nat}, a < card.numSectors.toNat → b < card.numSectors.toNat →
      cardAddr info.addrMult a = cardAddr info.addrMult b → a = b := by
  refine ⟨fun within life data => life.exact supported mult within data,
    fun h slot within inout data pending => exact_run supported mult within h inout data pending, ?_⟩
  intro a b left right same
  rw [mult] at same
  exact cardAddr_inj supported left right same

/-- An eMMC device that is addressed by byte, of the largest size. -/
def byteCard : Card := .mmc 0 0x800000

def byteAddressed : DeviceInfo := { maxSeg := 64, addrMult := 512 }

/-- Read the last two sectors. -/
def readLast : Request :=
  { sector := 0x7ffffe, first := ⟨0x1000, 0x1000, 1⟩, rest := [⟨0x3000, 0x3000, 1⟩], cb := some 5,
    read := true }

/-- The first CMD17 of this request in SDMA mode. -/
def lastRead : Cmd := firstCommand unchained.hwDrv byteAddressed readLast {}

/-- The second one, behind the first block. -/
def finalRead : Cmd :=
  (inoutWork unchained.hwDrv byteAddressed { lastRead with status := .success }).1

/-- The last sector that can be addressed by byte has the address 0xfffffe00. -/
theorem readLast_exact :
    Exact byteAddressed readLast lastRead ∧ Exact byteAddressed readLast finalRead ∧
      finalRead.arg = 0xfffffe00 := by
  have supported : byteCard.Supported := Or.inr (by decide)
  have within : Within byteCard readLast := by
    constructor
    · decide
    · decide
  have first : Life unchained.hwDrv byteAddressed readLast [] lastRead := .first {}
  have second : Life unchained.hwDrv byteAddressed readLast [{ lastRead with status := .success }]
      finalRead :=
    .next first (by constructor <;> rfl) (by rfl) (by rfl)
  have mult : byteAddressed.addrMult = byteCard.addrMult := by decide
  exact ⟨(addresses_exact supported mult).1 within first (by rfl),
    (addresses_exact supported mult).1 within second (by rfl), by rfl⟩

/-! ## Interrupts that stay pending -/

/-- With an SDHCI controller, an interrupt for a command in flight that has an enabled cause moves the
command to another status, or such a cause is acknowledged, if and only if the handler of the phase
the command is in looks at one of the causes. -/
theorem no_storm_iff (s : Sdhci) (irq : Sdhci.Irq) {c : Cmd} (busy : c.progress = true) (h : Hw) :
    s.Settles irq c h ↔
      s.raised (irq.regs .intStatus) c = 0 ∨ Sdhci.Noticed (irq.regs .intStatus) c :=
  s.settles_iff irq busy h

/-- The completion of CMD23. -/
theorem completion_settles :
    unbuffered.Settles (answering 1 0) (reading.queue.cmds 0) reading.hw := by
  rw [no_storm_iff unbuffered (answering 1 0) reading_busy]
  exact Or.inr (by decide)

/-- A re-tuning event is enabled, but neither handled nor acknowledged: the interrupt is unmasked
again, and nothing was written to the controller. -/
theorem retuning_storms :
    ¬ unbuffered.Settles (answering 0x1000 0) (reading.queue.cmds 0) reading.hw ∧
      (let d := step unbuffered.hwDrv flushable (.irq (answering 0x1000 0) []) reading
       d.irqMasked = false ∧ (d.queue.cmds 0).status = (reading.queue.cmds 0).status ∧
        d.hw.log.length = reading.hw.log.length) := by
  refine ⟨?_, by rfl, by rfl, by rfl⟩
  rw [unbuffered.settles_iff (answering 0x1000 0) reading_busy]
  decide

end Server

end Emmc
