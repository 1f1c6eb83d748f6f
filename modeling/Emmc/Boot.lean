import Emmc.Device.Address
import Emmc.Device.Completion
import Emmc.Device.Served
import Emmc.PowerUp.Controller
import Emmc.PowerUp.Described
import Emmc.Sdhci.Flush

/-!
# From the scan to the server

When the scan has found a card, its callback makes the device available and the server loop takes over
the interrupt. The device that is handed over has an empty queue whose indices have moved, and in the
slot of the scan a command that is left over; for its clients it is as good as new (`AsNew`).

* `AsNew.run`: what the operations of the server keep, from a device that is as good as new.
* `scan_then_serves`, `scan_then_completes`: the promises to the clients from power-up on.
* `scan_then_addresses`: the requests go to the sectors of the card that was found.

That the server loop gets the interrupt (`register_irq_obj`, `bind`) is left out. The runs beside the results
start from the scan of an SD card of 512 KiB (`found`).
-/

namespace Emmc

open Throwing

variable {H Irq ρ : Type}

/-- The device that the scan hands over. -/
def PowerUp.Scan.handOver (s : PowerUp.Scan (Board H Irq ρ)) : Device H Irq :=
  { queue := s.queue, hw := s.hw.hw }

/-- A scan without the log of its calls. -/
def PowerUp.Scan.unspied {σ : Type} (s : PowerUp.Scan (σ × List PowerUp.Call)) : PowerUp.Scan σ :=
  { queue := s.queue, hw := s.hw.1, medium := s.medium }

/-- What the device keeps of the card, with the configured segment limit. -/
def PowerUp.Medium.info (m : PowerUp.Medium) (maxSeg : Nat) (recvError : Int) : DeviceInfo :=
  { maxSeg, addrMult := m.addrMult, rca := m.rca, hasCmd23 := m.hasCmd23, hasCache := m.hasCache,
    recvError }

namespace Device

/-- No command is outstanding, no slot belongs to a request, nothing is logged, and no client has called. -/
structure AsNew (d : Device H Irq) : Prop where
  idle : PowerUp.Idle d.queue
  log : d.log = []
  replies : d.replies = []

namespace AsNew

variable {drv : HwDrv H Irq} {info : DeviceInfo} {d : Device H Irq}

theorem pending (new : AsNew d) : d.queue.pending = [] := CmdQueue.pending_eq_nil.mpr new.idle.none

theorem inout (new : AsNew d) (slot : Slot) : (d.queue.cmds slot).flags.inout = false := by
  apply new.idle.unmarked
  rw [← Bool.not_eq_true, new.idle.settled.enqueued slot, new.idle.none]
  exact List.not_mem_nil

/-- An invariant of the operations that holds of every device that is as good as new. -/
theorem run (new : AsNew d) {I : Device H Irq → Prop} {P : Op Irq → Device H Irq → Prop}
    (initial : I d) (kept : ∀ op d, d.queue.Settled → I d → P op d → I (step drv info op d))
    {ops : List (Op Irq)} (along : Runs.Along (step drv info) P ops d) :
    I (Runs.run (step drv info) ops d) ∧
      Runs.Along (step drv info) (fun op d => I (step drv info op d)) ops d := by
  have both : ∀ op d, d.queue.Settled ∧ I d → P op d →
      (step drv info op d).queue.Settled ∧ I (step drv info op d) :=
    fun op d here permitted =>
      ⟨settled_step drv info op here.1, kept op d here.1 here.2 permitted⟩
  have start : d.queue.Settled ∧ I d := ⟨new.idle.settled, initial⟩
  exact ⟨(Runs.run_invariant both start along).2,
    (Runs.along_invariant both start along).mono fun _ _ here => here.2⟩

theorem served (new : AsNew d) {ops : List (Op Irq)}
    (smooth : Runs.Along (step drv info) (Smooth drv info) ops d) :
    Runs.Along (step drv info) (fun op d => Served (step drv info op d)) ops d := by
  have initial : d.queue.Settled ∧ Attended drv d.view := by
    refine ⟨new.idle.settled, ?_⟩
    simp only [Attended, view, new.pending]
  have run := new.run (I := fun d => d.queue.Settled ∧ Attended drv d.view) initial
    (fun op d settled here smooth =>
      ⟨settled_step drv info op settled, attended_step drv info settled here.2 smooth⟩) smooth
  exact run.2.mono fun _ _ here => served_of_attended drv here.1 here.2

theorem completes (new : AsNew d) {ops : List (Op Irq)} (fits : ∀ op ∈ ops, Fits drv info op)
    (calm : Calm (Runs.run (step drv info) ops d).log) :
    Completes drv info (Runs.run (step drv info) ops d) := by
  have initial : Orderly Active d.view ∧ Ledger d.log (callbacks d.queue.pending) := by
    rw [new.log, new.pending]
    refine ⟨⟨?_, ?_, ?_, ?_⟩, rfl, trivial⟩
    all_goals simp [view, new.pending]
  have replied : Replied d := by
    rw [Replied, new.replies, new.log]
    rfl
  have run := new.run
    (I := fun d => Replied d ∧ (Calm d.log → Orderly Active d.view ∧ Ledger d.log (callbacks d.queue.pending)))
    (P := fun op _ => Fits drv info op) ⟨replied, fun _ => initial⟩
    (fun op d settled here fits => ⟨replied_step drv info op here.1, fun calm =>
      have before := here.2 (calm.suffix (log_suffix_step drv info fits settled))
      orderly_step drv info fits settled before.1 before.2 calm⟩)
    (Runs.along_of_forall fits _)
  exact completes_of_ledger drv info run.1.1 (run.1.2 calm).2

/-- The data commands of requests that are not answered yet. -/
theorem exact (new : AsNew d) {card : Card} (supported : card.Supported)
    (mult : info.addrMult = card.addrMult) {ops : List (Op Irq)}
    (within : ∀ op ∈ ops, ∀ req ∈ op.requests, Within card req) {slot : Slot}
    (inout : ((Runs.run (step drv info) ops d).queue.cmds slot).flags.inout = true)
    (data : ((Runs.run (step drv info) ops d).queue.cmds slot).flags.hasData = true)
    (pending : ∀ cb code size, ((Runs.run (step drv info) ops d).queue.cmds slot).cbIo = some cb →
      Event.callback slot cb code size ∉ (Runs.run (step drv info) ops d).log) :
    ∃ op ∈ ops, ∃ req ∈ op.requests,
      Exact info req ((Runs.run (step drv info) ops d).queue.cmds slot) := by
  have rule := livingRule drv info fun req => ∃ op ∈ ops, req ∈ op.requests
  have initial : Kept (InoutSlot (Living drv info fun req => ∃ op ∈ ops, req ∈ op.requests))
      (Explained drv info fun req => ∃ op ∈ ops, req ∈ op.requests) d := by
    refine ⟨new.idle.settled, fun slot => inoutSlot_other (new.inout slot), ?_⟩
    rw [new.log]
    trivial
  have run := new.run (P := fun op _ => ∀ req ∈ op.requests, ∃ op ∈ ops, req ∈ op.requests) initial
    (fun op d _ kept wanted => kept_step rule.slots wanted kept)
    (Runs.along_of_forall (fun op made req member => ⟨op, made, member⟩) _)
  rcases (run.1.slots slot).2 inout with
    ⟨req, past, c, ⟨op, made, member⟩, life, same⟩ | ⟨cb, code, size, context, called⟩
  · refine ⟨op, made, req, member, Exact.of_same ?_ same⟩
    apply life.exact supported mult (within op made req member)
    rw [← same.hasData]
    exact data
  · exact absurd called (pending cb code size context)

end AsNew

end Device

namespace PowerUp

open Device

variable (drv : HwDrv H Irq) (recvError : Int)

/-- What a scan leaves is as good as new, except for what is thrown before `try`. -/
theorem handOver_asNew (setup : Driver (Board H Irq ρ)) (disable : DeviceTypeDisable)
    (b : Board H Irq ρ) (medium : Medium) :
    wp (startDeviceScan (drv.driver recvError setup) disable) (fun _ s => AsNew s.handOver)
      (fun _ _ => True) { hw := b, medium := medium } :=
  (startDeviceScan_idle (drv.driver recvError setup) disable b medium).mono
    (fun _ _ idle => ⟨idle, rfl, rfl⟩) fun _ _ _ => trivial

/-! ## A card -/

section Card

open Sdhci (Hw unbuffered answering)

/-- The functions of a controller that leaves the bus alone; the I/O buffer holds the SCR of a card of
version 3.00. -/
def fixedBus : Driver (Board Hw Sdhci.Irq Unit) where
  suppUhsTimings _ := false
  suppPowerLimit _ := false
  needsTuningSdr50 := false
  ioPhys := 0
  ioVirt := 0
  ioBuf _ i := if i = 0 then 2 else if i = 2 then 0x80 else 0
  cmdExec := modify fun t => ({ t.1 with status := .success }, t.2)
  setBusWidth _ := return ()
  setClockAndTiming _ _ _ := return ()
  setVoltage _ := return ()
  delay _ := return ()
  tuningFinished := return some true
  resetTuning := return ()
  enableAutoTuning := return ()
  cardBusy := return false
  init := return ()
  suppUhsModes := false
  xpcSupported _ := true
  supportedVoltage := 0x00ff8000
  decides _ _ _ := Or.inl rfl
  sparesRequest _ _ := by constructor <;> rfl

/-- The card answers with the word, or with a CSD of version 2.0 in a long response. -/
def sdReply (rsp0 : U32) : Sdhci.Irq where
  regs := fun r =>
    if r = .intStatus then 3 else if r = .cmdRsp0 then rsp0 else if r = .cmdRsp3 then 0x400000 else 0

/-- There is no SDIO card. The SD card has finished its power-up and is one of high capacity, and it accepts
what comes behind that. -/
def sdBoard : Board Hw Sdhci.Irq Unit where
  hw := {}
  irqs := answering 0x10000 0 ::
    (List.replicate 11 (sdReply 0xc0000000) ++ List.replicate 12 (sdReply 0))
  rest := ()

def sdScan : Scan (Board Hw Sdhci.Irq Unit) :=
  after (startDeviceScan (unbuffered.hwDrv.driver (-1) fixedBus) {}) { hw := sdBoard }

set_option maxRecDepth 2000 in
theorem found :
    startDeviceScan (unbuffered.hwDrv.driver (-1) fixedBus) {} { hw := sdBoard } = .ok true sdScan := by
  apply ok_of_result
  decide +kernel

def sdInfo (s : Scan (Board Hw Sdhci.Irq Unit)) : DeviceInfo := s.medium.info 64 (-1)

/-- Read the second sector. -/
def readSecond : Request :=
  { sector := 1, first := ⟨0x1000, 0x1000, 1⟩, rest := [], cb := some 5, read := true }

/-- Two requests; the card does not answer CMD18, but the CMD12 behind it. -/
def secondTwice : List (Op Sdhci.Irq) :=
  [.inout readSecond, .inout readSecond, .irq (answering 0x10000 0) [], .irq (answering 3 0) []]

theorem readSecond_fits (medium : Medium) :
    oversized unbuffered.hwDrv (medium.info 64 (-1)) readSecond = false := by
  show oversized unbuffered.hwDrv { maxSeg := 64 } readSecond = false
  decide

theorem readSecond_sound (medium : Medium) :
    Sound unbuffered.hwDrv (medium.info 64 (-1)) readSecond := by
  have adma : unbuffered.hwDrv.dmaAdma2 = true := rfl
  refine ⟨by decide, readSecond_fits medium, ?_⟩
  rw [Carriable, if_pos adma]
  rfl

end Card

/-! ## Results -/

/-- From power-up on, no request is stranded as long as nothing throws in the middle of an operation:
after each operation the queue is empty, or its head is in flight and the interrupt is unmasked. -/
theorem scan_then_serves (setup : Driver (Board H Irq ρ)) (disable : DeviceTypeDisable)
    (b : Board H Irq ρ) (medium : Medium) (maxSeg : Nat) :
    wp (startDeviceScan (drv.driver recvError setup) disable)
      (fun _ s => ∀ ops : List (Op Irq),
        let server := step drv (s.medium.info maxSeg recvError)
        Runs.Along server (Smooth drv (s.medium.info maxSeg recvError)) ops s.handOver →
          Runs.Along server (fun op d => Served (server op d)) ops s.handOver)
      (fun _ _ => True) { hw := b, medium := medium } :=
  (handOver_asNew drv recvError setup disable b medium).imp fun _ _ new _ smooth => new.served smooth

/-- The first request fails, and the second one follows it. -/
theorem secondTwice_served :
    Runs.Along (step Sdhci.unbuffered.hwDrv (sdInfo sdScan))
      (fun op d => Served (step Sdhci.unbuffered.hwDrv (sdInfo sdScan) op d)) secondTwice
      sdScan.handOver := by
  have run := found
  have head : ∀ n ∈ [2, 3], (Runs.run (step Sdhci.unbuffered.hwDrv (sdInfo sdScan)) (secondTwice.take n)
      sdScan.handOver).queue.working? = some 1 := by
    decide +kernel
  have first : Sdhci.unbuffered.hwDrv.faultless (Sdhci.answering 0x10000 0)
      ((Runs.run (step Sdhci.unbuffered.hwDrv (sdInfo sdScan)) (secondTwice.take 2)
        sdScan.handOver).queue.cmds 1) = true := by
    decide +kernel
  have second : Sdhci.unbuffered.hwDrv.faultless (Sdhci.answering 3 0)
      ((Runs.run (step Sdhci.unbuffered.hwDrv (sdInfo sdScan)) (secondTwice.take 3)
        sdScan.handOver).queue.cmds 1) = true := by
    decide +kernel
  -- What is concrete would be evaluated from here on.
  generalize sdScan = s at *
  generalize sdBoard = b at *
  have serves := (wp_of_ok run).mp (scan_then_serves Sdhci.unbuffered.hwDrv (-1) fixedBus {} b {} 64)
  have sound : Sound Sdhci.unbuffered.hwDrv (sdInfo s) readSecond := readSecond_sound _
  exact serves secondTwice ⟨smooth_inout _ _ sound, smooth_inout _ _ sound,
    smooth_irq _ _ (head 2 (by decide)) first, smooth_irq _ _ (head 3 (by decide)) second, trivial⟩

/-- From power-up on, requests with segments of the advertised size are completed once and in order, in
every run in which no driver call throws. -/
theorem scan_then_completes (setup : Driver (Board H Irq ρ)) (disable : DeviceTypeDisable)
    (b : Board H Irq ρ) (medium : Medium) (maxSeg : Nat) :
    wp (startDeviceScan (drv.driver recvError setup) disable)
      (fun _ s => ∀ ops : List (Op Irq),
        let info := s.medium.info maxSeg recvError
        (∀ op ∈ ops, Fits drv info op) → Calm (Runs.run (step drv info) ops s.handOver).log →
          Completes drv info (Runs.run (step drv info) ops s.handOver))
      (fun _ _ => True) { hw := b, medium := medium } :=
  (handOver_asNew drv recvError setup disable b medium).imp fun _ _ new _ fits calm =>
    new.completes fits calm

/-- The first request is answered with an error, the second one is still there. -/
theorem secondTwice_completes :
    Completes Sdhci.unbuffered.hwDrv (sdInfo sdScan)
      (Runs.run (step Sdhci.unbuffered.hwDrv (sdInfo sdScan)) secondTwice sdScan.handOver) := by
  have run := found
  have calm : Calm
      (Runs.run (step Sdhci.unbuffered.hwDrv (sdInfo sdScan)) secondTwice sdScan.handOver).log := by
    unfold Calm
    decide +kernel
  generalize sdScan = s at *
  generalize sdBoard = b at *
  have completes :=
    (wp_of_ok run).mp (scan_then_completes Sdhci.unbuffered.hwDrv (-1) fixedBus {} b {} 64)
  refine completes secondTwice (fun op member => ?_) calm
  have fits : oversized Sdhci.unbuffered.hwDrv (sdInfo s) readSecond = false := readSecond_fits _
  have silent : ∀ irq, Fits Sdhci.unbuffered.hwDrv (sdInfo s) (.irq irq []) := by
    intro irq req absurd
    cases absurd
  simp only [secondTwice, List.mem_cons, List.not_mem_nil, or_false] at member
  rcases member with rfl | rfl | rfl | rfl
  · exact fits
  · exact fits
  · exact silent _
  · exact silent _

/-- Of the device that the callback makes available: the capacity and the unit of the addresses are those of
the card that was heard, and in every run of requests within the capacity, each data command of a request
that is not answered yet has the address of the first sector that is left, if the card is supported. -/
theorem scan_then_addresses (setup : Driver (Board H Irq ρ)) (disable : DeviceTypeDisable)
    (b : Board H Irq ρ) (medium : Medium) (maxSeg : Nat) :
    wp (startDeviceScan (drv.driver recvError setup).spied disable)
      (fun found s => found = true → ∃ card, Tells s.hw.2 card ∧ s.medium.numSectors = card.numSectors ∧
        s.medium.addrMult = card.addrMult ∧
        (card.Supported → ∀ (ops : List (Op Irq)) (slot : Slot),
          let info := s.medium.info maxSeg recvError
          let d := Runs.run (step drv info) ops s.unspied.handOver
          (∀ op ∈ ops, ∀ req ∈ op.requests, Within card req) →
          (d.queue.cmds slot).flags.inout = true → (d.queue.cmds slot).flags.hasData = true →
          (∀ cb code size, (d.queue.cmds slot).cbIo = some cb →
            Event.callback slot cb code size ∉ d.log) →
          ∃ op ∈ ops, ∃ req ∈ op.requests, Exact info req (d.queue.cmds slot)))
      (fun _ _ => True) (fresh { hw := b, medium := medium }) := by
  have described := startDeviceScan_described (drv.driver recvError setup) disable
    { hw := b, medium := medium }
  have idle := startDeviceScan_idle (drv.driver recvError setup).spied disable (b, []) medium
  apply (described.and idle).mono
  · intro found s post here
    obtain ⟨card, describes⟩ := post.1 here
    have new : AsNew s.unspied.handOver := ⟨post.2, rfl, rfl⟩
    exact ⟨card, describes.tells, describes.numSectors, describes.addrMult,
      fun supported _ _ within inout data pending =>
        new.exact supported describes.addrMult within inout data pending⟩
  · exact fun _ _ _ => trivial

/-- What an SD card of high capacity answers. -/
def highCapacity : Call → Bool
  | .command sent ended _ =>
    if sent.word = Mmc.cmd1SendOpCond then false
    else if sent.word = Mmc.acmd41SdAppOpCond then Mmc.RegOcr.ccs.test (ended.resp 0)
    else if sent.word = Mmc.cmd9SendCsd then (Mmc.RegCsd.ofResponse ended.resp).csdStructure == 1
    else true
  | _ => true

theorem supported_of_highCapacity {log : List Call} {card : Card} (tells : Tells log card)
    (all : ∀ call ∈ log, highCapacity call = true) : card.Supported := by
  have told : ∀ {word P}, Told log word P → ∃ sent ended ioBuf, sent.word = word ∧ P ended ioBuf ∧
      highCapacity (.command sent ended ioBuf) = true := by
    rintro word P ⟨sent, ended, ioBuf, member, same, -, holds⟩
    exact ⟨sent, ended, ioBuf, same, holds, all _ member⟩
  cases card with
  | sd ocr csd =>
    obtain ⟨-, heardOcr, heardCsd⟩ := tells
    obtain ⟨sent, ended, ioBuf, word, rfl, high⟩ := told heardOcr
    obtain ⟨sent', ended', ioBuf', word', rfl, high'⟩ := told heardCsd
    rw [highCapacity, word, if_neg (by decide), if_pos rfl] at high
    rw [highCapacity, word', if_neg (by decide), if_neg (by decide), if_pos rfl, beq_iff_eq] at high'
    exact Or.inr ⟨high', high⟩
  | mmc ocr secCount =>
    obtain ⟨-, heardOcr, -⟩ := tells
    obtain ⟨sent, ended, ioBuf, word, rfl, high⟩ := told heardOcr
    rw [highCapacity, word, if_pos rfl] at high
    cases high

def spiedScan : Scan (Board Sdhci.Hw Sdhci.Irq Unit × List Call) :=
  after (startDeviceScan (Sdhci.unbuffered.hwDrv.driver (-1) fixedBus).spied {}) (fresh { hw := sdBoard })

set_option maxRecDepth 2000 in
theorem spied_found :
    startDeviceScan (Sdhci.unbuffered.hwDrv.driver (-1) fixedBus).spied {} (fresh { hw := sdBoard }) =
      .ok true spiedScan := by
  apply ok_of_result
  decide +kernel

/-- The device when it was asked to read the second sector of this card. -/
def spiedReading : Device Sdhci.Hw Sdhci.Irq :=
  Runs.run (step Sdhci.unbuffered.hwDrv (spiedScan.medium.info 64 (-1))) [.inout readSecond]
    spiedScan.unspied.handOver

/-- The second sector has the address 1. -/
theorem readSecond_addressed :
    Exact (spiedScan.medium.info 64 (-1)) readSecond (spiedReading.queue.cmds 1) := by
  have run := spied_found
  have all : ∀ call ∈ spiedScan.hw.2, highCapacity call = true := by decide +kernel
  have size : spiedScan.medium.numSectors = 1024 := by decide +kernel
  have inout : (spiedReading.queue.cmds 1).flags.inout = true := by decide +kernel
  have data : (spiedReading.queue.cmds 1).flags.hasData = true := by decide +kernel
  have log : spiedReading.log = [.returned (some 1) (some 5) L4.eok,
      .submitted 1 ⟨Mmc.cmd18ReadMultipleBlock, 1, 1, true, false⟩] := by
    decide +kernel
  unfold spiedReading at *
  generalize spiedScan = s at *
  generalize sdBoard = b at *
  have addresses := (wp_of_ok run).mp
    (scan_then_addresses Sdhci.unbuffered.hwDrv (-1) fixedBus {} b {} 64)
  obtain ⟨card, tells, sectors, -, exact⟩ := addresses rfl
  have within : Within card readSecond := by
    constructor
    · rw [card.capacity_div, ← sectors, size]
      decide
    · decide
  have only : ∀ op ∈ [(.inout readSecond : Op Sdhci.Irq)], ∀ req ∈ op.requests, req = readSecond := by
    intro op member req made
    rw [List.mem_singleton.mp member] at made
    exact List.mem_singleton.mp made
  have supported := supported_of_highCapacity tells all
  obtain ⟨op, member, req, made, exact⟩ := exact supported [.inout readSecond] 1
    (fun op member req made => by rw [only op member req made]; exact within) inout data
    (fun cb code size _ there => by rw [log] at there; simp at there)
  rw [only op member req made] at exact
  exact exact

end PowerUp

end Emmc
