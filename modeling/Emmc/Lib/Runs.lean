import Mathlib.Init

/-!
# Runs of a deterministic system

A system with a step function `step : Op → State → State` is driven by a list of operations.
`Along P ops s` says that `P` holds of every operation of the run at the state it is applied in;
`run_invariant` is the induction every safety argument over runs uses. A run may keep a log, the
newest entry first; `filterMap_reverse_cons` is for what is read from it.
-/

namespace Runs

variable {Op State : Type}

/-- The state reached by a list of operations. -/
def run (step : Op → State → State) : List Op → State → State
  | [], s => s
  | op :: ops, s => run step ops (step op s)

/-- Every operation of the run satisfies `P` at the state it is applied in. -/
def Along (step : Op → State → State) (P : Op → State → Prop) : List Op → State → Prop
  | [], _ => True
  | op :: ops, s => P op s ∧ Along step P ops (step op s)

instance decidableAlong (step : Op → State → State) (P : Op → State → Prop)
    [∀ op s, Decidable (P op s)] : ∀ ops s, Decidable (Along step P ops s)
  | [], _ => inferInstanceAs (Decidable True)
  | op :: ops, s =>
    have := decidableAlong step P ops (step op s)
    inferInstanceAs (Decidable (P op s ∧ Along step P ops (step op s)))

variable {step : Op → State → State} {P : Op → State → Prop} {I : State → Prop}

@[simp] theorem run_nil (s : State) : run step [] s = s := rfl

@[simp] theorem run_cons (op : Op) (ops : List Op) (s : State) :
    run step (op :: ops) s = run step ops (step op s) := rfl

@[simp] theorem along_nil (s : State) : Along step P [] s := True.intro

@[simp] theorem along_cons (op : Op) (ops : List Op) (s : State) :
    Along step P (op :: ops) s ↔ P op s ∧ Along step P ops (step op s) := Iff.rfl

theorem run_append (front back : List Op) (s : State) :
    run step (front ++ back) s = run step back (run step front s) := by
  induction front generalizing s with
  | nil => rfl
  | cons op front ih => exact ih (step op s)

theorem along_append (front back : List Op) (s : State) :
    Along step P (front ++ back) s ↔ Along step P front s ∧ Along step P back (run step front s) := by
  induction front generalizing s with
  | nil => exact (iff_of_eq (true_and _)).symm
  | cons op front ih => exact (and_congr_right fun _ => ih (step op s)).trans and_assoc.symm

/-- What one step preserves, a run preserves. -/
theorem run_invariant
    (preserved : ∀ op s, I s → P op s → I (step op s))
    {ops : List Op} {s : State} (start : I s) (along : Along step P ops s) :
    I (run step ops s) := by
  induction ops generalizing s with
  | nil => exact start
  | cons op ops ih => exact ih (preserved op s start along.1) along.2

/-- After every operation of the run the invariant holds. -/
theorem along_invariant
    (preserved : ∀ op s, I s → P op s → I (step op s))
    {ops : List Op} {s : State} (start : I s) (along : Along step P ops s) :
    Along step (fun op s => I (step op s)) ops s := by
  induction ops generalizing s with
  | nil => trivial
  | cons op ops ih =>
    have next := preserved op s start along.1
    exact ⟨next, ih next along.2⟩

theorem Along.mono {Q : Op → State → Prop} (weaker : ∀ op s, P op s → Q op s) {ops : List Op}
    {s : State} (along : Along step P ops s) : Along step Q ops s := by
  induction ops generalizing s with
  | nil => trivial
  | cons op ops ih => exact ⟨weaker op s along.1, ih along.2⟩

/-- A condition on operations alone holds along a run when it holds of the whole list. -/
theorem along_of_forall {P : Op → Prop} {ops : List Op} (all : ∀ op ∈ ops, P op) (s : State) :
    Along step (fun op _ => P op) ops s := by
  induction ops generalizing s with
  | nil => trivial
  | cons op ops ih =>
    exact ⟨all op List.mem_cons_self, ih (fun o mem => all o (List.mem_cons_of_mem _ mem)) _⟩

/-- What one more entry of a log adds to what is read from it. -/
theorem filterMap_reverse_cons {α β : Type} (f : α → Option β) (entry : α) (log : List α) :
    (entry :: log).reverse.filterMap f = log.reverse.filterMap f ++ (f entry).toList := by
  rw [List.reverse_cons, List.filterMap_append]
  cases outcome : f entry with
  | none => rw [List.filterMap_cons_none outcome, List.filterMap_nil, Option.toList_none]
  | some b => rw [List.filterMap_cons_some outcome, List.filterMap_nil, Option.toList_some]

end Runs
