import Emmc.Device.Commands

/-!
# The device as a queue of commands

Everything the device does depends on the list of outstanding commands, on the interrupt mask and
on what it logged. `View` is that part of the state, and the relations of this module are the
transitions of the abstract machine over it.

* `Kick`, `KickFails`: submitting the head.
* `Inout`, `InoutEscapes`: one call of `inoutData`; `InoutAll` and `InoutAllEscapes`: the calls a
  callback makes.
* `Resume`, `ResumeFails`: going on with the request at the head after its command ended.
* `Interrupt`: one call of `handleIrq`.
* `cmdQueueKick_spec`, `inoutData_spec`, `handleIrqInout_spec`, `handleIrq_spec`: from a settled
  queue, the code takes these transitions only and leaves the queue settled.
-/

namespace Emmc

open Throwing

/-- The part of the device state that its behaviour depends on, besides the controller. -/
structure View where
  pending : List (Slot × Cmd)
  irqMasked : Bool
  log : List Event

variable {H Irq : Type}

namespace Device

def view (d : Device H Irq) : View := ⟨d.queue.pending, d.irqMasked, d.log⟩

@[simp] theorem queue_setCmd (d : Device H Irq) (slot : Slot) (c : Cmd) :
    (d.setCmd slot c).queue = d.queue.setCmd slot c := rfl

@[simp] theorem setCmd_setCmd (d : Device H Irq) (slot : Slot) (c c' : Cmd) :
    (d.setCmd slot c).setCmd slot c' = d.setCmd slot c' := by
  simp [setCmd]

theorem wp_modifyCmd {slot : Slot} {f : Cmd → Cmd} {Q : Unit → Device H Irq → Prop}
    {E : RuntimeError → Device H Irq → Prop} {d : Device H Irq} :
    wp (modifyCmd slot f) Q E d ↔ Q () (d.setCmd slot (f (d.queue.cmds slot))) := Iff.rfl

variable (drv : HwDrv H Irq) (info : DeviceInfo)

/-! ## Submitting the head of the queue -/

/-- The head is submitted if it waits for that. -/
inductive Kick : View → View → Prop
  | idle {v : View}
      (notReady : ∀ slot c rest, v.pending = (slot, c) :: rest → c.status ≠ .readyForSubmit) :
      Kick v v
  | submit {slot : Slot} {c c' : Cmd} {rest : List (Slot × Cmd)} {masked : Bool}
      {log : List Event} (ready : c.status = .readyForSubmit) (accepted : drv.accepts c = true)
      (same : c.SameRequest c') (busy : c'.status = .progressCmd)
      (blockcnt : c'.blockcnt = c.blockcnt) :
      Kick ⟨(slot, c) :: rest, masked, log⟩
        ⟨(slot, c') :: rest, false, .submitted slot c.issue :: log⟩

/-- The submission of the head throws; the head stays ready. -/
inductive KickFails : View → View → Prop
  | refused {slot : Slot} {c c' : Cmd} {rest : List (Slot × Cmd)} {masked : Bool}
      {log : List Event} (ready : c.status = .readyForSubmit) (refused : drv.accepts c = false)
      (same : c.SameRequest c') (still : c'.status = .readyForSubmit) :
      KickFails ⟨(slot, c) :: rest, masked, log⟩ ⟨(slot, c') :: rest, masked, .threw slot :: log⟩

/-- A driver function on the command in a slot. -/
theorem onCmd_spec {d : Device H Irq} {slot : Slot} {m : Action H Unit}
    {Q : Unit → Cmd × H → Prop} {E : RuntimeError → Cmd × H → Prop}
    (spec : wp m Q E (d.queue.cmds slot, d.hw)) :
    wp (onCmd slot m)
      (fun _ d' => ∃ c h, Q () (c, h) ∧ d' = { d with queue := d.queue.setCmd slot c, hw := h })
      (fun e d' => ∃ c h, E e (c, h) ∧ d' =
        { d with queue := d.queue.setCmd slot c, hw := h, log := .threw slot :: d.log }) d := by
  simp only [onCmd, emit, wp_tryCatch, wp_zoom, wp_bind, wp_modify, wp_throw]
  exact spec.mono (fun _ s post => ⟨s.1, s.2, post, rfl⟩) (fun _ s post => ⟨s.1, s.2, post, rfl⟩)

theorem issue_eq {c c' : Cmd} (same : c.SameRequest c') (blockcnt : c'.blockcnt = c.blockcnt) :
    c'.issue = c.issue := by
  simp only [Cmd.issue, same.cmd, same.arg, same.hasData, same.autoCmd23, blockcnt]

/-- Submitting the head of the queue. -/
theorem cmdSubmitOnAvail_spec {d : Device H Irq} (settled : d.queue.Settled) {slot : Slot}
    {c : Cmd} {rest : List (Slot × Cmd)} (list : d.queue.pending = (slot, c) :: rest)
    (ready : c.status = .readyForSubmit) :
    wp (cmdSubmitOnAvail drv slot)
      (fun _ d' => d'.queue.Settled ∧ Kick drv d.view { d'.view with irqMasked := false })
      (fun _ d' => d'.queue.Settled ∧ KickFails drv d.view d'.view) d := by
  obtain ⟨-, cmd⟩ := settled.head_of_pending list
  have view : d.view = ⟨(slot, c) :: rest, d.irqMasked, d.log⟩ := by rw [Device.view, list]
  have keep : ∀ {c' : Cmd}, c.SameRequest c' → (d.queue.setCmd slot c').Settled := by
    intro c' same
    exact settled.setCmd (by rw [same.enqueued, cmd])
  have submit := drv.submit_spec c d.hw
  rw [← cmd] at submit
  simp only [cmdSubmitOnAvail, emit, wp_bind, wp_get, wp_modify]
  refine (onCmd_spec submit).mono ?_ ?_
  · intro _ d' outcome
    rcases outcome with ⟨c', h', ⟨⟨-, accepted⟩, same, busy, blockcnt⟩, rfl⟩
    rw [cmd] at accepted same blockcnt
    refine ⟨keep same, ?_⟩
    rw [view]
    simp only [Device.view, CmdQueue.cmds_setCmd_self, CmdQueue.pending_setCmd_head list,
      issue_eq same blockcnt]
    exact .submit ready accepted same busy blockcnt
  · intro _ d' outcome
    rcases outcome with ⟨c', h', ⟨refused, same, still, blockcnt⟩, rfl⟩
    rw [cmd] at refused same still
    have notAccepted : drv.accepts c = false := by
      cases accepted : drv.accepts c with
      | false => rfl
      | true => exact absurd ⟨ready, accepted⟩ refused
    refine ⟨keep same, ?_⟩
    rw [view]
    simp only [Device.view, CmdQueue.pending_setCmd_head list]
    exact .refused ready notAccepted same (still.trans ready)

/-- Kicking a settled queue. -/
theorem cmdQueueKick_spec {d : Device H Irq} (settled : d.queue.Settled) :
    wp (cmdQueueKick drv)
      (fun _ d' => d'.queue.Settled ∧ Kick drv d.view d'.view)
      (fun _ d' => d'.queue.Settled ∧ KickFails drv d.view d'.view) d := by
  simp only [cmdQueueKick, drvCmdQueueKick, unmaskInterrupt, wp_bind, wp_get]
  cases list : d.queue.pending with
  | nil =>
    rw [settled.working?_of_pending_nil list]
    refine ⟨settled, .idle ?_⟩
    intro slot c rest head
    simp [Device.view, list] at head
  | cons entry rest =>
    rcases entry with ⟨slot, c⟩
    obtain ⟨working, cmd⟩ := settled.head_of_pending list
    simp only [working, cmd]
    by_cases ready : c.status = .readyForSubmit
    · simp only [ready, if_true, wp_bind]
      apply (cmdSubmitOnAvail_spec drv settled list ready).imp
      intro _ d' post
      exact post
    · simp only [ready, if_false, wp_pure]
      refine ⟨settled, .idle ?_⟩
      intro slot' c' rest' head
      simp only [Device.view, list, List.cons.injEq, Prod.mk.injEq] at head
      exact head.1.2 ▸ ready

/-! ## One call of `inoutData` -/

/-- `inoutData` returns. -/
inductive Inout (req : Request) : View → Int → View → Prop
  | busy {v : View} (full : v.pending.length = entries - 1) :
      Inout req v (-L4.ebusy) { v with log := .returned none req.cb (-L4.ebusy) :: v.log }
  | accepted {v v' : View} {slot : Slot} {c : Cmd} (room : v.pending.length ≠ entries - 1)
      (fits : oversized drv info req = false) (fresh : slot ∉ v.pending.map Prod.fst)
      (kick : Kick drv { v with pending := v.pending ++ [(slot, firstCommand drv info req c)] } v') :
      Inout req v L4.eok { v' with log := .returned (some slot) req.cb L4.eok :: v'.log }
  | oversized {v : View} {slot : Slot} (empty : v.pending = [])
      (large : oversized drv info req = true) :
      Inout req v (-L4.einval)
        { v with log := .returned (some slot) req.cb (-L4.einval) :: v.log }
  | refused {v v' : View} {slot : Slot} {c : Cmd} (empty : v.pending = [])
      (fits : oversized drv info req = false)
      (fails : KickFails drv { v with pending := [(slot, firstCommand drv info req c)] } v') :
      Inout req v (-L4.einval)
        { v' with pending := [], log := .returned (some slot) req.cb (-L4.einval) :: v'.log }

/-- An exception escapes `inoutData`: the clean-up marks a command as done that is not the head of
the queue. The slot stays behind. -/
inductive InoutEscapes (req : Request) : View → View → Prop
  | oversized {v : View} {slot : Slot} {c : Cmd} (room : v.pending.length ≠ entries - 1)
      (others : v.pending ≠ []) (large : oversized drv info req = true) :
      InoutEscapes req v { v with pending := v.pending ++ [(slot, c)] }
  | refused {v v' : View} {slot : Slot} {c : Cmd} (room : v.pending.length ≠ entries - 1)
      (others : v.pending ≠ []) (fits : oversized drv info req = false)
      (fails : KickFails drv
        { v with pending := v.pending ++ [(slot, firstCommand drv info req c)] } v') :
      InoutEscapes req v v'

/-- Retiring the head of the queue. -/
theorem retire_head {d : Device H Irq} (settled : d.queue.Settled) {slot : Slot} {c : Cmd}
    {rest : List (Slot × Cmd)} (list : d.queue.pending = (slot, c) :: rest) :
    wp (onQueue (CmdQueue.retire slot))
      (fun _ d' => d'.queue.Settled ∧ d'.view = { d.view with pending := rest })
      (fun _ _ => False) d := by
  obtain ⟨working, -⟩ := settled.head_of_pending list
  simp only [onQueue, wp_zoom]
  apply (CmdQueue.retire_spec settled working).imp_ok
  intro _ q retired
  rw [retired]
  refine ⟨settled.retired working, ?_⟩
  simp only [Device.view, CmdQueue.pending_retired list]

/-- Retiring any other slot throws and changes nothing. -/
theorem retire_other {d : Device H Irq} {slot : Slot} (other : d.queue.working? ≠ some slot) :
    wp (onQueue (CmdQueue.retire slot)) (fun _ _ => False) (fun _ d' => d' = d) d := by
  simp only [onQueue, wp_zoom]
  refine (CmdQueue.retire_of_not_working other).mono (fun _ _ absurd => absurd) ?_
  intro _ q same
  rw [same]

/-- The view of the device after the request was put into the queue. -/
def queued (d : Device H Irq) (req : Request) : View :=
  let c := d.queue.created.cmds d.queue.create
  { d.view with
    pending := d.view.pending ++ [(d.queue.create, firstCommand drv info req c)] }

/-- The `try` part of `inoutData`, in the slot just created. -/
theorem submitRequest_spec {d : Device H Irq} (settled : d.queue.Settled)
    (room : d.queue.isFull = false) (req : Request) :
    wp (submitRequest drv info d.queue.create req)
      (fun _ d' => d'.queue.Settled ∧ oversized drv info req = false ∧
        Kick drv (queued drv info d req) d'.view)
      (fun _ d' => d'.queue.Settled ∧
        (oversized drv info req = true ∧
            (∃ c, d'.view =
              { d.view with pending := d.view.pending ++ [(d.queue.create, c)] }) ∨
          oversized drv info req = false ∧ KickFails drv (queued drv info d req) d'.view))
      { d with queue := d.queue.created } := by
  let d₁ : Device H Irq := { d with queue := d.queue.created }
  let c₀ := d.queue.created.cmds d.queue.create
  have keep : ∀ {c : Cmd}, c.flags.enqueued = c₀.flags.enqueued →
      (d₁.setCmd d.queue.create c).queue.Settled :=
    fun same => (settled.created room).setCmd same
  have view : ∀ c, (d₁.setCmd d.queue.create c).view =
      { d.view with pending := d.view.pending ++ [(d.queue.create, c)] } := by
    intro c
    simp only [Device.view, queue_setCmd, d₁, CmdQueue.pending_created room]
    rfl
  -- both transfer modes leave the first command of the request in the slot
  have kick : ∀ c, c = firstCommand drv info req c₀ →
      wp (cmdQueueKick drv)
        (fun _ d' => d'.queue.Settled ∧ Kick drv (queued drv info d req) d'.view)
        (fun _ d' => d'.queue.Settled ∧ KickFails drv (queued drv info d req) d'.view)
        (d₁.setCmd d.queue.create c) := by
    intro c first
    have enqueued : c.flags.enqueued = c₀.flags.enqueued := by
      rw [first, (firstCommand_resumed drv info req c₀).2.2.1]
    have spec := cmdQueueKick_spec drv (keep enqueued)
    rw [view, first] at spec
    rw [first]
    exact spec
  simp only [submitRequest, wp_bind, wp_modifyCmd, wp_ite, wp_throw, setCmd_setCmd, queue_setCmd,
    CmdQueue.cmds_setCmd_self]
  refine ⟨fun large => ⟨keep rfl, Or.inl ⟨large, _, view _⟩⟩, fun small => ?_⟩
  have fits : oversized drv info req = false := by simpa using small
  refine ⟨fun adma => ?_, fun sdma => ?_⟩
  · have first : setBlockCountAdma2 drv info (requested req c₀) =
        firstCommand drv info req c₀ := by
      simp only [firstCommand, adma, if_true]
    exact (kick _ first).mono (fun _ _ post => ⟨post.1, fits, post.2⟩)
      (fun _ _ post => ⟨post.1, Or.inr ⟨fits, post.2⟩⟩)
  · have first : (transferBlockSdma info (requested req c₀)).1 =
        firstCommand drv info req c₀ := by
      simp only [firstCommand, sdma, if_false, Bool.false_eq_true]
    exact (kick _ first).mono (fun _ _ post => ⟨post.1, fits, post.2⟩)
      (fun _ _ post => ⟨post.1, Or.inr ⟨fits, post.2⟩⟩)

theorem KickFails.slots {v v' : View} (fails : KickFails drv v v') :
    v'.pending.map Prod.fst = v.pending.map Prod.fst := by
  cases fails
  rfl

theorem Kick.eq_of_nil {v v' : View} (kick : Kick drv v v') (empty : v.pending = []) : v' = v := by
  cases kick with
  | idle => rfl
  | submit => cases empty

theorem KickFails.ne_nil {v v' : View} (fails : KickFails drv v v') : v.pending ≠ [] := by
  cases fails
  exact List.cons_ne_nil _ _

/-- Retiring the youngest outstanding slot: it succeeds exactly when it is the only one. -/
theorem retire_last {d : Device H Irq} (settled : d.queue.Settled) {slot : Slot}
    {others : List Slot} (slots : d.queue.pending.map Prod.fst = others ++ [slot])
    (fresh : slot ∉ others) :
    wp (onQueue (CmdQueue.retire slot))
      (fun _ d' => others = [] ∧ d'.queue.Settled ∧ d'.view = { d.view with pending := [] })
      (fun _ d' => others ≠ [] ∧ d' = d) d := by
  cases others with
  | nil =>
    obtain ⟨⟨slot', c⟩, single, rfl⟩ := List.map_eq_singleton_iff.mp slots
    exact (retire_head settled single).mono (fun _ _ post => ⟨rfl, post⟩)
      (fun _ _ absurd => absurd.elim)
  | cons other rest =>
    have notHead : d.queue.working? ≠ some slot := by
      intro working
      obtain ⟨tail, list⟩ := settled.working?_eq_some.mp working
      rw [← d.queue.slots_pending, slots, List.cons_append] at list
      exact fresh (by rw [(List.cons.inj list).1]; exact List.mem_cons_self)
    exact (retire_other notHead).mono (fun _ _ absurd => absurd.elim)
      (fun _ _ same => ⟨List.cons_ne_nil _ _, same⟩)

/-- The clean-up of a failed request: it succeeds exactly when no other command is outstanding. -/
theorem cleanUp_spec {d : Device H Irq} (settled : d.queue.Settled) {slot : Slot}
    {others : List Slot} (slots : d.queue.pending.map Prod.fst = others ++ [slot])
    (fresh : slot ∉ others) :
    wp (cleanUp drv slot)
      (fun code d' => others = [] ∧ code = -L4.einval ∧ d'.queue.Settled ∧
        d'.view = { d.view with pending := [] })
      (fun _ d' => others ≠ [] ∧ d' = d) d := by
  simp only [cleanUp, wp_bind, wp_pure]
  apply (retire_last settled slots fresh).imp
  intro _ d₁ retired
  rcases retired with ⟨alone, settled₁, view₁⟩
  have empty : d₁.view.pending = [] := by rw [view₁]
  refine (cmdQueueKick_spec drv settled₁).mono ?_ ?_
  · intro _ d₂ post
    exact ⟨alone, trivial, post.1, (post.2.eq_of_nil drv empty).trans view₁⟩
  · intro _ d₂ post
    exact absurd empty (post.2.ne_nil drv)

/-- `inoutData` on a settled queue. -/
theorem inoutData_spec {d : Device H Irq} (settled : d.queue.Settled) (req : Request) :
    wp (inoutData drv info req)
      (fun code d' => d'.queue.Settled ∧ Inout drv info req d.view code d'.view)
      (fun _ d' => d'.queue.Settled ∧ InoutEscapes drv info req d.view d'.view) d := by
  have fresh : d.queue.create ∉ d.view.pending.map Prod.fst := by
    show _ ∉ d.queue.pending.map Prod.fst
    rw [CmdQueue.slots_pending]
    exact d.queue.create_notMem_outstanding
  simp only [inoutData, emit, wp_bind, onQueue, wp_zoom]
  apply (CmdQueue.createCmd_spec settled).imp_ok
  intro slot q created
  by_cases full : d.queue.isFull = true
  · rw [if_pos full] at created
    rcases created with ⟨rfl, rfl⟩
    exact ⟨settled, .busy (d.queue.isFull_iff_pending.mp full)⟩
  · rw [if_neg full] at created
    rcases created with ⟨rfl, rfl⟩
    have room : d.queue.isFull = false := by simpa using full
    have notFull : d.view.pending.length ≠ entries - 1 := by
      intro length
      exact full (d.queue.isFull_iff_pending.mpr length)
    simp only [wp_bind, wp_tryCatch, wp_pure, wp_modify]
    refine (submitRequest_spec drv info settled room req).mono ?_ ?_
    · intro _ d₁ post
      rcases post with ⟨settled₁, fits, kick⟩
      exact ⟨settled₁, .accepted notFull fits fresh kick⟩
    · intro _ d₁ post
      rcases post with ⟨settled₁, failed⟩
      have slots : d₁.queue.pending.map Prod.fst =
          d.view.pending.map Prod.fst ++ [d.queue.create] := by
        rcases failed with ⟨-, c, view⟩ | ⟨-, fails⟩
        · show d₁.view.pending.map Prod.fst = _
          rw [view, List.map_append, List.map_singleton]
        · show d₁.view.pending.map Prod.fst = _
          rw [fails.slots drv, queued, List.map_append, List.map_singleton]
      refine (cleanUp_spec drv settled₁ slots fresh).mono ?_ ?_
      · intro code d₂ post
        rcases post with ⟨noOthers, rfl, settled₂, view₂⟩
        have empty : d.view.pending = [] := List.map_eq_nil_iff.mp noOthers
        refine ⟨settled₂, ?_⟩
        show Inout drv info req d.view (-L4.einval) { d₂.view with
          log := .returned (some d.queue.create) req.cb (-L4.einval) :: d₂.view.log }
        rw [view₂]
        rcases failed with ⟨large, c, view⟩ | ⟨fits, fails⟩
        · have back : { d₁.view with pending := [] } = d.view := by
            rw [view]
            exact congrArg (View.mk · d.view.irqMasked d.view.log) empty.symm
          rw [back]
          exact .oversized empty large
        · rw [queued, empty, List.nil_append] at fails
          have outcome := Inout.refused empty fits fails
          exact outcome
      · intro e d₂ post
        rcases post with ⟨others, rfl⟩
        refine ⟨settled₁, ?_⟩
        have nonempty : d.view.pending ≠ [] := fun empty => others (by rw [empty]; rfl)
        rcases failed with ⟨large, c, view⟩ | ⟨fits, fails⟩
        · rw [view]
          exact .oversized notFull nonempty large
        · exact .refused notFull nonempty fits fails

/-! ## The calls a callback makes -/

/-- The caller keeps the code. -/
theorem wp_callInout {req : Request} {Q : Unit → Device H Irq → Prop}
    {E : RuntimeError → Device H Irq → Prop} {d : Device H Irq} :
    wp (callInout drv info req) Q E d ↔
      wp (inoutData drv info req)
        (fun code d' => Q () { d' with replies := (req.cb, code) :: d'.replies }) E d := by
  simp only [callInout, wp_bind, wp_modify]

/-- All calls return. -/
inductive InoutAll : List Request → View → View → Prop
  | nil {v : View} : InoutAll [] v v
  | cons {req : Request} {reqs : List Request} {v v₁ v₂ : View} {code : Int}
      (head : Inout drv info req v code v₁) (tail : InoutAll reqs v₁ v₂) :
      InoutAll (req :: reqs) v v₂

/-- An exception escapes from one of the calls. -/
inductive InoutAllEscapes : List Request → View → View → Prop
  | here {req : Request} {reqs : List Request} {v v' : View}
      (escapes : InoutEscapes drv info req v v') : InoutAllEscapes (req :: reqs) v v'
  | later {req : Request} {reqs : List Request} {v v₁ v₂ : View} {code : Int}
      (head : Inout drv info req v code v₁) (tail : InoutAllEscapes reqs v₁ v₂) :
      InoutAllEscapes (req :: reqs) v v₂

theorem inoutAll_spec (reqs : List Request) {d : Device H Irq} (settled : d.queue.Settled) :
    wp (inoutAll drv info reqs)
      (fun _ d' => d'.queue.Settled ∧ InoutAll drv info reqs d.view d'.view)
      (fun _ d' => d'.queue.Settled ∧ InoutAllEscapes drv info reqs d.view d'.view) d := by
  induction reqs generalizing d with
  | nil => exact ⟨settled, .nil⟩
  | cons req reqs ih =>
    rw [inoutAll, wp_bind, wp_callInout]
    refine (inoutData_spec drv info settled req).mono ?_
      (fun _ _ post => ⟨post.1, .here post.2⟩)
    intro code d₁ post
    rcases post with ⟨settled₁, head⟩
    have tail := ih (d := { d₁ with replies := (req.cb, code) :: d₁.replies }) settled₁
    exact tail.mono (fun _ _ post => ⟨post.1, .cons head post.2⟩)
      (fun _ _ post => ⟨post.1, .later head post.2⟩)

/-- A call of `inoutData` leaves the head where it is, and unchanged unless it submits it. -/
theorem Inout.keeps_head {req : Request} {v v' : View} {code : Int} {slot : Slot} {c : Cmd}
    {rest : List (Slot × Cmd)} (inout : Inout drv info req v code v')
    (list : v.pending = (slot, c) :: rest) :
    ∃ c' rest', v'.pending = (slot, c') :: rest' ∧
      (c.status ≠ .readyForSubmit → c' = c ∧ v'.irqMasked = v.irqMasked) := by
  cases inout with
  | busy full => exact ⟨c, rest, list, fun _ => ⟨rfl, rfl⟩⟩
  | accepted room fits fresh kick =>
    rw [list] at kick
    cases kick with
    | idle => exact ⟨c, _, rfl, fun _ => ⟨rfl, rfl⟩⟩
    | submit ready => exact ⟨_, _, rfl, fun notReady => absurd ready notReady⟩
  | oversized empty large =>
    rw [empty] at list
    cases list
  | refused empty fits fails =>
    rw [empty] at list
    cases list

theorem InoutAll.keeps_head {reqs : List Request} {v v' : View} {slot : Slot} {c : Cmd}
    {rest : List (Slot × Cmd)} (calls : InoutAll drv info reqs v v')
    (list : v.pending = (slot, c) :: rest) :
    ∃ c' rest', v'.pending = (slot, c') :: rest' ∧
      (c.status ≠ .readyForSubmit → c' = c ∧ v'.irqMasked = v.irqMasked) := by
  induction calls generalizing c rest with
  | nil => exact ⟨c, rest, list, fun _ => ⟨rfl, rfl⟩⟩
  | cons head tail ih =>
    obtain ⟨c₁, rest₁, list₁, same₁⟩ := head.keeps_head drv info list
    obtain ⟨c₂, rest₂, list₂, same₂⟩ := ih list₁
    refine ⟨c₂, rest₂, list₂, fun notReady => ?_⟩
    obtain ⟨rfl, masked₁⟩ := same₁ notReady
    obtain ⟨rfl, masked₂⟩ := same₂ notReady
    exact ⟨rfl, masked₂.trans masked₁⟩

/-! ## Going on with a request -/

/-- `handleIrqInout` returns. -/
inductive Resume (nested : List Request) : View → View → Prop
  | next {slot : Slot} {c : Cmd} {cb : Callback} {rest : List (Slot × Cmd)} {masked : Bool}
      {log : List Event} {v' : View} (context : c.cbIo = some cb)
      (more : (inoutWork drv info c).2 = .moreWork)
      (kick : Kick drv ⟨(slot, (inoutWork drv info c).1) :: rest, masked, log⟩ v') :
      Resume nested ⟨(slot, c) :: rest, masked, log⟩ v'
  | done {slot : Slot} {c c' : Cmd} {cb : Callback} {rest rest' : List (Slot × Cmd)}
      {masked masked' : Bool} {log log' : List Event} {code : Int} {size : U64} {v' : View}
      (context : c.cbIo = some cb) (done : (inoutWork drv info c).2 = .workDone code size)
      (calls : InoutAll drv info nested
        ⟨(slot, (inoutWork drv info c).1) :: rest, masked, .callback slot cb code size :: log⟩
        ⟨(slot, c') :: rest', masked', log'⟩)
      (kick : Kick drv ⟨rest', masked', log'⟩ v') :
      Resume nested ⟨(slot, c) :: rest, masked, log⟩ v'

/-- `handleIrqInout` throws. -/
inductive ResumeFails (nested : List Request) : View → View → Prop
  | noContext {slot : Slot} {c : Cmd} {rest : List (Slot × Cmd)} {masked : Bool}
      {log : List Event} (noContext : c.cbIo = none) :
      ResumeFails nested ⟨(slot, c) :: rest, masked, log⟩ ⟨(slot, c) :: rest, masked, log⟩
  | next {slot : Slot} {c : Cmd} {cb : Callback} {rest : List (Slot × Cmd)} {masked : Bool}
      {log : List Event} {v' : View} (context : c.cbIo = some cb)
      (more : (inoutWork drv info c).2 = .moreWork)
      (fails : KickFails drv ⟨(slot, (inoutWork drv info c).1) :: rest, masked, log⟩ v') :
      ResumeFails nested ⟨(slot, c) :: rest, masked, log⟩ v'
  | call {slot : Slot} {c : Cmd} {cb : Callback} {rest : List (Slot × Cmd)} {masked : Bool}
      {log : List Event} {code : Int} {size : U64} {v' : View} (context : c.cbIo = some cb)
      (done : (inoutWork drv info c).2 = .workDone code size)
      (escapes : InoutAllEscapes drv info nested
        ⟨(slot, (inoutWork drv info c).1) :: rest, masked, .callback slot cb code size :: log⟩
        v') :
      ResumeFails nested ⟨(slot, c) :: rest, masked, log⟩ v'
  | done {slot : Slot} {c c' : Cmd} {cb : Callback} {rest rest' : List (Slot × Cmd)}
      {masked masked' : Bool} {log log' : List Event} {code : Int} {size : U64} {v' : View}
      (context : c.cbIo = some cb) (done : (inoutWork drv info c).2 = .workDone code size)
      (calls : InoutAll drv info nested
        ⟨(slot, (inoutWork drv info c).1) :: rest, masked, .callback slot cb code size :: log⟩
        ⟨(slot, c') :: rest', masked', log'⟩)
      (fails : KickFails drv ⟨rest', masked', log'⟩ v') :
      ResumeFails nested ⟨(slot, c) :: rest, masked, log⟩ v'

/-- Going on with the request at the head of the queue. -/
theorem handleIrqInout_spec (nested : List Request) {d : Device H Irq}
    (settled : d.queue.Settled) {slot : Slot} {c : Cmd} {rest : List (Slot × Cmd)}
    (list : d.queue.pending = (slot, c) :: rest) :
    wp (handleIrqInout drv info slot nested)
      (fun _ d' => d'.queue.Settled ∧ Resume drv info nested d.view d'.view)
      (fun _ d' => d'.queue.Settled ∧ ResumeFails drv info nested d.view d'.view) d := by
  obtain ⟨-, cmd⟩ := settled.head_of_pending list
  have view : d.view = ⟨(slot, c) :: rest, d.irqMasked, d.log⟩ := by rw [Device.view, list]
  simp only [handleIrqInout, wp_bind, wp_get, cmd]
  rw [view]
  cases context : c.cbIo with
  | none => exact ⟨settled, by rw [view]; exact .noContext context⟩
  | some cb =>
    let c₁ := (inoutWork drv info c).1
    have keep : (d.setCmd slot c₁).queue.Settled := by
      refine settled.setCmd ?_
      rw [cmd]
      cases work : (inoutWork drv info c).2 with
      | moreWork => exact (inoutWork_resumed drv info work).owner.enqueued
      | workDone code size => exact (inoutWork_done drv info work).2.1.enqueued
    have list₁ : (d.setCmd slot c₁).queue.pending = (slot, c₁) :: rest :=
      CmdQueue.pending_setCmd_head list c₁
    have view₁ : (d.setCmd slot c₁).view = ⟨(slot, c₁) :: rest, d.irqMasked, d.log⟩ := by
      rw [Device.view, list₁]
      rfl
    simp only [wp_bind, wp_modifyCmd]
    cases work : (inoutWork drv info c).2 with
    | moreWork =>
      have spec := cmdQueueKick_spec drv keep
      rw [view₁] at spec
      exact spec.mono (fun _ _ post => ⟨post.1, .next context work post.2⟩)
        (fun _ _ post => ⟨post.1, .next context work post.2⟩)
    | workDone code size =>
      simp only [emit, wp_bind, wp_modify]
      have spec := inoutAll_spec drv info nested
        (d := { d.setCmd slot c₁ with
          log := .callback slot cb code size :: (d.setCmd slot c₁).log }) keep
      have view₂ : ({ d.setCmd slot c₁ with
          log := .callback slot cb code size :: (d.setCmd slot c₁).log } : Device H Irq).view =
          ⟨(slot, c₁) :: rest, d.irqMasked, .callback slot cb code size :: d.log⟩ := by
        rw [Device.view, list₁]
        rfl
      rw [view₂] at spec
      refine spec.mono ?_ (fun _ _ post => ⟨post.1, .call context work post.2⟩)
      intro _ d₃ post
      rcases post with ⟨settled₃, calls⟩
      obtain ⟨c₃, rest₃, list₃, -⟩ := calls.keeps_head drv info rfl
      have view₃ : d₃.view = ⟨(slot, c₃) :: rest₃, d₃.irqMasked, d₃.log⟩ := by
        rw [← list₃]
        rfl
      rw [view₃] at calls
      apply (retire_head settled₃ list₃).imp_ok
      intro _ d₄ retired
      rcases retired with ⟨settled₄, view₄⟩
      have kick := cmdQueueKick_spec drv settled₄
      rw [view₄] at kick
      exact kick.mono (fun _ _ post => ⟨post.1, .done context work calls post.2⟩)
        (fun _ _ post => ⟨post.1, .done context work calls post.2⟩)

/-! ## Interrupts -/

/-- What the driver's handler makes of the head when it returns. -/
structure Handled (c c' : Cmd) : Prop where
  busy : c.progress = true → c.AfterIrq c'
  idle : c.progress = false →
    c.SameRequest c' ∧ c'.status = c.status ∧ c'.blockcnt = c.blockcnt

theorem Handled.same {c c' : Cmd} (handled : Handled c c') : c.SameRequest c' := by
  cases busy : c.progress with
  | true => exact (handled.busy busy).same
  | false => exact (handled.idle busy).1

/-- The log after the driver's handler: it notes when a command in flight ended. -/
def noteEnd (slot : Slot) (c c' : Cmd) (log : List Event) : List Event :=
  if c.progress && !c'.progress then .ended slot c'.cmd c'.status (c'.resp 0) :: log else log

/-- One call of `handleIrq`, which never throws. -/
inductive Interrupt (irq : Irq) (nested : List Request) : View → View → Prop
  | spurious {v : View} (empty : v.pending = []) :
      Interrupt irq nested v { v with irqMasked := true }
  | fault {slot : Slot} {c c' : Cmd} {rest : List (Slot × Cmd)} {masked : Bool}
      {log : List Event} (busy : c.progress = true) (fault : drv.faultless irq c = false)
      (same : c.SameRequest c') :
      Interrupt irq nested ⟨(slot, c) :: rest, masked, log⟩
        ⟨(slot, c') :: rest, true, .threw slot :: log⟩
  | running {slot : Slot} {c c' : Cmd} {rest : List (Slot × Cmd)} {masked : Bool}
      {log : List Event} (handled : Handled c c') (busy : c'.progress = true) :
      Interrupt irq nested ⟨(slot, c) :: rest, masked, log⟩ ⟨(slot, c') :: rest, false, log⟩
  | inout {slot : Slot} {c c' : Cmd} {rest : List (Slot × Cmd)} {masked : Bool}
      {log : List Event} {v' : View} (handled : Handled c c') (ended : c'.progress = false)
      (inout : c'.flags.inout = true)
      (resume : Resume drv info nested ⟨(slot, c') :: rest, true, noteEnd slot c c' log⟩ v') :
      Interrupt irq nested ⟨(slot, c) :: rest, masked, log⟩ v'
  | inoutFails {slot : Slot} {c c' : Cmd} {rest : List (Slot × Cmd)} {masked : Bool}
      {log : List Event} {v' : View} (handled : Handled c c') (ended : c'.progress = false)
      (inout : c'.flags.inout = true)
      (fails : ResumeFails drv info nested ⟨(slot, c') :: rest, true, noteEnd slot c c' log⟩ v') :
      Interrupt irq nested ⟨(slot, c) :: rest, masked, log⟩ v'
  | other {slot : Slot} {c c' : Cmd} {rest : List (Slot × Cmd)} {masked : Bool}
      {log : List Event} {v' : View} (handled : Handled c c') (ended : c'.progress = false)
      (other : c'.flags.inout = false)
      (kick : Kick drv ⟨(slot, c') :: rest, true, noteEnd slot c c' log⟩ v' ∨
        KickFails drv ⟨(slot, c') :: rest, true, noteEnd slot c c' log⟩ v') :
      Interrupt irq nested ⟨(slot, c) :: rest, masked, log⟩ v'

/-- The driver's handler on the head of the queue, after `irq` was presented. -/
theorem handler_spec (irq : Irq) (c : Cmd) (h : H) :
    wp drv.handleIrq (fun _ s => Handled c s.1)
      (fun _ s => c.progress = true ∧ drv.faultless irq c = false ∧ c.SameRequest s.1)
      (c, drv.present irq h) := by
  cases busy : c.progress with
  | false =>
    apply (drv.handleIrq_idle busy _).imp_ok
    intro _ s post
    exact ⟨fun progress => absurd (busy.symm.trans progress) Bool.false_ne_true, fun _ => post⟩
  | true =>
    have handled : ∀ s : Cmd × H, c.AfterIrq s.1 → Handled c s.1 := by
      intro s after
      exact ⟨fun _ => after, fun idle => absurd (idle.symm.trans busy) Bool.false_ne_true⟩
    cases fault : drv.faultless irq c with
    | true =>
      exact (drv.handleIrq_faultless h busy fault).mono (fun _ s after => handled s after)
        (fun _ _ absurd => absurd.elim)
    | false =>
      exact (drv.handleIrq_spec _ busy).mono (fun _ s after => handled s after)
        (fun _ _ same => ⟨rfl, rfl, same⟩)

/-- The driver part of an interrupt. -/
theorem drvHandleIrq_spec (irq : Irq) {d : Device H Irq} (settled : d.queue.Settled) (h : H)
    (presented : d.hw = drv.present irq h) {slot : Slot} {c : Cmd} {rest : List (Slot × Cmd)}
    (list : d.queue.pending = (slot, c) :: rest) :
    wp (drvHandleIrq drv slot)
      (fun _ d' => d'.queue.Settled ∧ ∃ c', Handled c c' ∧ d'.queue.cmds slot = c' ∧
        d'.view = ⟨(slot, c') :: rest, d.irqMasked, noteEnd slot c c' d.log⟩)
      (fun _ d' => d'.queue.Settled ∧ ∃ c', c.progress = true ∧ drv.faultless irq c = false ∧
        c.SameRequest c' ∧
        d'.view = ⟨(slot, c') :: rest, d.irqMasked, .threw slot :: d.log⟩) d := by
  obtain ⟨-, cmd⟩ := settled.head_of_pending list
  have keep : ∀ {c' : Cmd}, c.SameRequest c' → (d.queue.setCmd slot c').Settled := by
    intro c' same
    exact settled.setCmd (by rw [same.enqueued, cmd])
  have handler := handler_spec drv irq c h
  rw [← presented, ← cmd] at handler
  simp only [drvHandleIrq, emit, wp_bind, wp_get]
  refine (onCmd_spec handler).mono ?_ ?_
  · intro _ d' post
    rcases post with ⟨c', h', handled, rfl⟩
    rw [cmd] at handled ⊢
    simp only [CmdQueue.cmds_setCmd_self, wp_ite, wp_modify, wp_pure]
    refine ⟨fun ended => ⟨keep handled.same, c', handled, rfl, ?_⟩,
      fun running => ⟨keep handled.same, c', handled, rfl, ?_⟩⟩
    · rw [noteEnd, if_pos ended]
      simp only [Device.view, CmdQueue.pending_setCmd_head list]
    · rw [noteEnd, if_neg running]
      simp only [Device.view, CmdQueue.pending_setCmd_head list]
  · intro _ d' post
    rcases post with ⟨c', h', ⟨busy, fault, same⟩, rfl⟩
    rw [cmd] at busy fault same
    refine ⟨keep same, c', busy, fault, same, ?_⟩
    simp only [Device.view, CmdQueue.pending_setCmd_head list]

/-- `handleIrq` on a settled queue. -/
theorem handleIrq_spec (irq : Irq) (nested : List Request) {d : Device H Irq}
    (settled : d.queue.Settled) :
    wp (handleIrq drv info irq nested)
      (fun _ d' => d'.queue.Settled ∧ Interrupt drv info irq nested d.view d'.view)
      (fun _ _ => False) d := by
  simp only [handleIrq, dispatchIrq, wp_bind, wp_modify, wp_tryCatch, wp_pure, wp_get]
  cases list : d.queue.pending with
  | nil =>
    rw [settled.working?_of_pending_nil list]
    exact ⟨settled, .spurious list⟩
  | cons entry rest =>
    rcases entry with ⟨slot, c⟩
    obtain ⟨working, -⟩ := settled.head_of_pending list
    have view : d.view = ⟨(slot, c) :: rest, d.irqMasked, d.log⟩ := by rw [Device.view, list]
    rw [working, view]
    simp only [wp_bind, wp_get]
    refine (drvHandleIrq_spec drv irq
      (d := { d with irqMasked := true, hw := drv.present irq d.hw }) settled d.hw rfl list).mono
      ?_ ?_
    · intro _ d₁ post
      rcases post with ⟨settled₁, c₁, handled, cmd₁, view₁⟩
      have list₁ : d₁.queue.pending = (slot, c₁) :: rest := congrArg View.pending view₁
      rw [cmd₁]
      simp only [wp_ite, unmaskInterrupt, wp_modify]
      refine ⟨fun busy => ⟨settled₁, ?_⟩, fun ended => ⟨fun inout => ?_, fun other => ?_⟩⟩
      · have quiet : noteEnd slot c c₁ d.log = d.log := by
          simp [noteEnd, busy]
        have unmasked : ({ d₁ with irqMasked := false } : Device H Irq).view =
            ⟨(slot, c₁) :: rest, false, d.log⟩ := by
          rw [← quiet]
          exact congrArg (fun v : View => { v with irqMasked := false }) view₁
        rw [unmasked]
        exact .running handled busy
      · have spec := handleIrqInout_spec drv info nested settled₁ list₁
        rw [view₁] at spec
        have stopped : c₁.progress = false := by simpa using ended
        exact spec.mono (fun _ _ post => ⟨post.1, .inout handled stopped inout post.2⟩)
          (fun _ _ post => ⟨post.1, .inoutFails handled stopped inout post.2⟩)
      · have spec := cmdQueueKick_spec drv settled₁
        rw [view₁] at spec
        have stopped : c₁.progress = false := by simpa using ended
        have notInout : c₁.flags.inout = false := by simpa using other
        exact spec.mono
          (fun _ _ post => ⟨post.1, .other handled stopped notInout (Or.inl post.2)⟩)
          (fun _ _ post => ⟨post.1, .other handled stopped notInout (Or.inr post.2)⟩)
    · intro _ d₁ post
      rcases post with ⟨settled₁, c₁, busy, fault, same, view₁⟩
      rw [view₁]
      exact ⟨settled₁, .fault busy fault same⟩

end Device

end Emmc
