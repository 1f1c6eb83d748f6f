import Emmc.Device.Flush

/-!
# A failing request

`inoutData` cleans up after a request that cannot be submitted, but the clean-up marks the new
command as done and insists on it being the head of the queue. With other commands outstanding the
exception of `work_done()` escapes and the slot stays behind.

* `FailsAtomically`: a failure after the slot was created is reported and leaves no trace.
* `failsAtomically_iff`: exactly when this holds, for every settled queue.
-/

namespace Emmc

open Throwing

variable {H Irq : Type}

namespace Device

variable (drv : HwDrv H Irq) (info : DeviceInfo)

/-- If `inoutData` fails although it got a slot, it returns an error and leaves the outstanding
commands alone. -/
def FailsAtomically (req : Request) (d : Device H Irq) : Prop :=
  wp (inoutData drv info req)
    (fun code d' => d.queue.isFull = false → code ≠ L4.eok →
      code = -L4.einval ∧ d.queue.SameOutstanding d'.queue)
    (fun _ _ => False) d

/-- The head of the queue waits for submission, and the controller is going to refuse it. -/
def HeadRefused (d : Device H Irq) : Prop :=
  ∃ slot, d.queue.working? = some slot ∧ (d.queue.cmds slot).status = .readyForSubmit ∧
    drv.accepts (d.queue.cmds slot) = false

/-- The requests that cannot escape the clean-up. -/
def CleanlyRefused (req : Request) (d : Device H Irq) : Prop :=
  d.queue.isFull = true ∨ d.queue.outstanding = [] ∨
    oversized drv info req = false ∧ ¬ HeadRefused drv d

theorem headRefused_of_kickFails {d : Device H Irq} (settled : d.queue.Settled) {slot : Slot}
    {c : Cmd} {v' : View} (others : d.view.pending ≠ [])
    (fails : KickFails drv { d.view with pending := d.view.pending ++ [(slot, c)] } v') :
    HeadRefused drv d := by
  cases list : d.view.pending with
  | nil => exact absurd list others
  | cons head rest =>
    rw [list] at fails
    cases fails with
    | refused ready refused =>
      obtain ⟨working, cmd⟩ := settled.head_of_pending list
      exact ⟨_, working, by rw [cmd]; exact ready, by rw [cmd]; exact refused⟩

/-- The submission of a head that is refused fails. -/
theorem not_kick_of_headRefused {d : Device H Irq} (settled : d.queue.Settled) {slot : Slot}
    {c : Cmd} {v' : View} (refused : HeadRefused drv d) :
    ¬ Kick drv { d.view with pending := d.view.pending ++ [(slot, c)] } v' := by
  rcases refused with ⟨head, working, ready, refused⟩
  intro kick
  have list : ∃ rest, d.view.pending = (head, d.queue.cmds head) :: rest := by
    obtain ⟨rest, slots⟩ := settled.working?_eq_some.mp working
    refine ⟨rest.map fun slot => (slot, d.queue.cmds slot), ?_⟩
    show d.queue.pending = _
    rw [CmdQueue.pending, slots, List.map_cons]
  rcases list with ⟨rest, list⟩
  rw [list] at kick
  cases kick with
  | idle notReady => exact notReady _ _ _ rfl ready
  | submit _ accepted => exact Bool.false_ne_true (refused.symm.trans accepted)

/-- A failing request is cleaned up if and only if it got no slot, or no other command was
outstanding, or its segments fit and nothing but the request itself can be refused. -/
theorem failsAtomically_iff (req : Request) {d : Device H Irq} (settled : d.queue.Settled) :
    FailsAtomically drv info req d ↔ CleanlyRefused drv info req d := by
  have spec := inoutData_spec drv info settled req
  apply Iff.intro
  · intro atomic
    have both := atomic.and spec
    unfold wp at both
    cases outcome : inoutData drv info req d with
    | error e d' =>
      rw [outcome] at both
      exact both.1.elim
    | ok code d' =>
      rw [outcome] at both
      rcases both with ⟨-, -, inout⟩
      generalize d'.view = v' at inout
      cases inout with
      | busy full => exact Or.inl (d.queue.isFull_iff_pending.mpr full)
      | accepted room fits fresh kick =>
        refine Or.inr (Or.inr ⟨fits, fun refused => ?_⟩)
        exact not_kick_of_headRefused drv settled refused kick
      | oversized empty large => exact Or.inr (Or.inl (CmdQueue.pending_eq_nil.mp empty))
      | refused empty fits fails => exact Or.inr (Or.inl (CmdQueue.pending_eq_nil.mp empty))
  · intro condition
    refine spec.mono ?_ ?_
    · intro code d' post
      rcases post with ⟨settled', inout⟩
      intro room failed
      generalize view : d'.view = v' at inout
      cases inout with
      | busy full =>
        have isFull := d.queue.isFull_iff_pending.mpr full
        exact absurd (room.symm.trans isFull) Bool.false_ne_true
      | accepted => exact absurd rfl failed
      | oversized empty large =>
        exact ⟨rfl, settled.sameOutstanding settled' (congrArg View.pending view)⟩
      | refused empty fits fails =>
        refine ⟨rfl, settled.sameOutstanding settled' ?_⟩
        exact (congrArg View.pending view).trans (Eq.symm empty)
    · intro _ d' post
      rcases post with ⟨settled', escapes⟩
      generalize d'.view = v' at escapes
      have contradiction : d.view.pending.length ≠ entries - 1 → d.view.pending ≠ [] →
          oversized drv info req = true ∨ HeadRefused drv d → False := by
        intro room others reason
        rcases condition with full | empty | ⟨fits, accepted⟩
        · exact room (d.queue.isFull_iff_pending.mp full)
        · exact others (CmdQueue.pending_eq_nil.mpr empty)
        · rcases reason with large | refused
          · exact Bool.false_ne_true (fits.symm.trans large)
          · exact accepted refused
      cases escapes with
      | oversized room others large => exact contradiction room others (Or.inl large)
      | refused room others fits fails =>
        exact contradiction room others
          (Or.inr (headRefused_of_kickFails drv settled others fails))

end Device

end Emmc
