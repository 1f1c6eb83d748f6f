import Emmc.Lib.Throwing

/-!
# Going through a list of entries

A program that reads options goes through a list of entries. A later entry overrides an earlier one, and
some entries are heads that open a new group.

* `wp_forM`: the loop rule; its invariant speaks of the entries that were read.
* `cut_cases`: two places in one list.
* `lastOf f d l`: the value of the last entry that has one, or `d`.
* `groups head l`: the entries before the first head, and the groups that the heads open.
-/

namespace Entries

open Throwing

universe u

variable {ε σ κ α : Type} {ι : Type u}

/-- The entries are read one after the other; what is thrown is thrown at one of them. -/
theorem wp_forM {f : ι → EStateM ε σ PUnit} {I : List ι → σ → Prop} {E : ε → σ → Prop} {l : List ι}
    (each : ∀ read x rest s, l = read ++ x :: rest → I read s →
      wp (f x) (fun _ s' => I (read ++ [x]) s') E s) {s : σ} (start : I [] s) :
    wp (forM l f) (fun _ s' => I l s') E s := by
  have going : ∀ rest read s, l = read ++ rest → I read s → wp (forM rest f) (fun _ s' => I l s') E s := by
    intro rest
    induction rest with
    | nil =>
      intro read s whole here
      rw [List.append_nil] at whole
      rw [whole]
      exact here
    | cons x rest ih =>
      intro read s whole here
      rw [List.forM_cons]
      apply (each read x rest s whole here).bind
      intro _ s' here'
      exact ih (read ++ [x]) s' (by rw [whole, List.append_assoc, List.singleton_append]) here'
  exact going l [] s rfl start

/-- What holds of all elements and of one more holds of all with it. -/
theorem forall_concat {P : ι → Prop} {l : List ι} {x : ι} (before : ∀ y ∈ l, P y) (last : P x) :
    ∀ y ∈ l ++ [x], P y :=
  List.forall_mem_append.mpr ⟨before, List.forall_mem_singleton.mpr last⟩

/-- Two ways to cut off the front of a list. -/
theorem cut_cases {read read' rest rest' : List ι} {x y : ι}
    (same : read ++ x :: rest = read' ++ y :: rest') :
    x ∈ read' ∨ (read = read' ∧ x = y) ∨ ∃ rest'', read = read' ++ y :: rest'' := by
  rcases List.append_eq_append_iff.mp same with ⟨more, front, back⟩ | ⟨more, front, back⟩
  · cases more with
    | nil =>
      rw [List.append_nil] at front
      exact Or.inr (Or.inl ⟨front.symm, (List.cons.inj back).1⟩)
    | cons z more =>
      rw [List.cons_append, List.cons.injEq] at back
      rw [front, ← back.1]
      exact Or.inl (List.mem_append_right _ List.mem_cons_self)
  · cases more with
    | nil =>
      rw [List.append_nil] at front
      exact Or.inr (Or.inl ⟨front, (List.cons.inj back).1.symm⟩)
    | cons z more =>
      rw [List.cons_append, List.cons.injEq] at back
      exact Or.inr (Or.inr ⟨more, by rw [front, ← back.1]⟩)

/-! ## Overriding -/

/-- The value of the last entry that has one. -/
def lastOf (f : ι → Option α) (d : α) (l : List ι) : α := (l.filterMap f).getLast?.getD d

variable {f : ι → Option α} {d : α}

@[simp] theorem lastOf_nil : lastOf f d [] = d := rfl

/-- The first element is only the default for the others. -/
theorem lastOf_cons (x : ι) (l : List ι) : lastOf f d (x :: l) = lastOf f ((f x).getD d) l := by
  unfold lastOf
  cases value : f x with
  | none => rw [List.filterMap_cons_none value, Option.getD_none]
  | some a =>
    rw [List.filterMap_cons_some value, List.getLast?_cons, Option.getD_some, Option.getD_some]

/-- The last element decides if it has a value. -/
theorem lastOf_concat (l : List ι) (x : ι) : lastOf f d (l ++ [x]) = (f x).getD (lastOf f d l) := by
  unfold lastOf
  rw [List.filterMap_append, List.getLast?_append]
  cases value : f x with
  | none => rw [List.filterMap_cons_none value]; rfl
  | some a => rw [List.filterMap_cons_some value]; rfl

/-! ## Groups -/

/-- The entries before the first head, and each head with those up to the next one. -/
def groups (head : ι → Option κ) : List ι → List ι × List (κ × List ι)
  | [] => ([], [])
  | x :: l =>
    match head x with
    | some k => ([], (k, (groups head l).1) :: (groups head l).2)
    | none => (x :: (groups head l).1, (groups head l).2)

variable {head : ι → Option κ} {x : ι} {l : List ι}

/-- An element that opens a group closes the one before. -/
theorem groups_head {k : κ} (opens : head x = some k) :
    groups head (x :: l) = ([], (k, (groups head l).1) :: (groups head l).2) := by
  rw [groups, opens]

/-- Any other element belongs to the group before it. -/
theorem groups_other (other : head x = none) :
    groups head (x :: l) = (x :: (groups head l).1, (groups head l).2) := by
  rw [groups, other]

end Entries
