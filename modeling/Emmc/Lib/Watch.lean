import Emmc.Lib.Runs
import Emmc.Lib.Throwing

/-!
# Watching the calls of a computation

What a computation asks of its environment is recorded in a log, the newest entry first. A `Watch` reads
such a log: it keeps a view of it and says which entry it permits when.

* `recorded entry m`: `m` with one more entry in the log, on both exits.
* `Adds log p n m`: the log only grows, by at most `n` entries of the kind `p`.
* `Watch.Fine log`: every entry was permitted when it was made; `fine_iff_always` is the same entry by
  entry.
* `Watch.Seen v log`: the log is fine so far and leaves the view `v`.
-/

namespace Throwing

variable {ε σ ι α : Type}

/-- Run `m`; whether it returns or throws, an entry is made of the states before and after. -/
def recorded (entry : σ → σ → ι) (m : EStateM ε σ α) : EStateM ε (σ × List ι) α := fun s =>
  match m s.1 with
  | .ok a t => .ok a (t, entry s.1 t :: s.2)
  | .error e t => .error e (t, entry s.1 t :: s.2)

/-- The log has grown by at most `n` entries of the kind `p`. -/
def Grown (p : ι → Bool) (n : Nat) (log log' : List ι) : Prop :=
  ∃ added, log' = added ++ log ∧ added.countP p ≤ n

/-- A log that stays as it is has grown by nothing. -/
theorem Grown.refl (p : ι → Bool) (n : Nat) (log : List ι) : Grown p n log log :=
  ⟨[], rfl, Nat.zero_le n⟩

/-- A larger bound holds as well. -/
theorem Grown.le {p : ι → Bool} {a b : Nat} {log log' : List ι} (grown : Grown p a log log')
    (le : a ≤ b) : Grown p b log log' := by
  obtain ⟨added, same, bound⟩ := grown
  exact ⟨added, same, Nat.le_trans bound le⟩

/-- What is added in two steps adds up. -/
theorem Grown.trans {p : ι → Bool} {a b : Nat} {log log' log'' : List ι} (first : Grown p a log log')
    (second : Grown p b log' log'') : Grown p (b + a) log log'' := by
  obtain ⟨added, rfl, bound⟩ := first
  obtain ⟨more, rfl, bound'⟩ := second
  refine ⟨more ++ added, (List.append_assoc _ _ _).symm, ?_⟩
  rw [List.countP_append]
  exact Nat.add_le_add bound' bound

/-- On both exits, the computation has added at most `n` entries of the kind `p` to its log. -/
def Adds (log : σ → List ι) (p : ι → Bool) (n : Nat) (m : EStateM ε σ α) : Prop :=
  ∀ s, wp m (fun _ s' => Grown p n (log s) (log s')) (fun _ s' => Grown p n (log s) (log s')) s

namespace Adds

variable {log : σ → List ι} {p : ι → Bool} {m : EStateM ε σ α} {a b : Nat}

theorem pure (x : α) : Adds log p a (Pure.pure x : EStateM ε σ α) := fun _ => .refl p a _

/-- An exception adds nothing. -/
theorem throw (e : ε) : Adds log p a (MonadExcept.throw e : EStateM ε σ α) := fun _ => .refl p a _

theorem le (adds : Adds log p a m) (le : a ≤ b) : Adds log p b m :=
  fun s => (adds s).mono (fun _ _ grown => grown.le le) (fun _ _ grown => grown.le le)

/-- The second part only has to keep its bound for the results that the first one can have. -/
theorem bind_yields {β : Type} {f : α → EStateM ε σ β} {R : α → Prop} (first : Adds log p a m)
    (yields : Yields R m) (second : ∀ x, R x → Adds log p b (f x)) :
    Adds log p (b + a) (m >>= f) := by
  intro s
  rw [wp_bind]
  apply ((first s).yields yields).mono
  · intro x s' both
    exact (second x both.2 s').mono (fun _ _ more => both.1.trans more)
      (fun _ _ more => both.1.trans more)
  · exact fun _ _ grown => grown.le (Nat.le_add_left _ _)

theorem bind {β : Type} {f : α → EStateM ε σ β} (first : Adds log p a m)
    (second : ∀ x, Adds log p b (f x)) : Adds log p (b + a) (m >>= f) :=
  first.bind_yields (yields_any m) fun x _ => second x

/-- The handler may add to what the body has added before its exception. -/
theorem tryCatch {handler : ε → EStateM ε σ α} (body : Adds log p a m)
    (handled : ∀ e, Adds log p b (handler e)) : Adds log p (b + a) (tryCatch m handler) := by
  intro s
  rw [wp_tryCatch]
  apply (body s).mono
  · exact fun _ _ grown => grown.le (Nat.le_add_left _ _)
  · intro e s' grown
    exact (handled e s').mono (fun _ _ more => grown.trans more) (fun _ _ more => grown.trans more)

end Adds

/-- The entry is written on both exits, and it may depend on the state behind the computation. -/
@[simp] theorem wp_recorded {entry : σ → σ → ι} {m : EStateM ε σ α} {Q : α → σ × List ι → Prop}
    {E : ε → σ × List ι → Prop} {s : σ × List ι} :
    wp (recorded entry m) Q E s ↔
      wp m (fun a t => Q a (t, entry s.1 t :: s.2)) (fun e t => E e (t, entry s.1 t :: s.2)) s.1 := by
  unfold wp recorded
  cases m s.1 <;> rfl

end Throwing

/-- An observer of a log: its view at the beginning, what an entry makes of the view, and which entries
it permits. -/
structure Watch (ι V : Type) where
  start : V
  next : ι → V → V
  permits : ι → V → Prop

namespace Watch

variable {ι V : Type} (w : Watch ι V)

/-- The view after a log. -/
def view (log : List ι) : V := Runs.run w.next log.reverse w.start

/-- Every entry of the log was permitted. -/
def Fine (log : List ι) : Prop := Runs.Along w.next w.permits log.reverse w.start

@[simp] theorem view_nil : w.view [] = w.start := rfl

/-- The newest entry moves the view that the older ones have led to. -/
@[simp] theorem view_cons (entry : ι) (log : List ι) :
    w.view (entry :: log) = w.next entry (w.view log) := by
  unfold view
  rw [List.reverse_cons, Runs.run_append]
  rfl

@[simp] theorem fine_nil : w.Fine [] := trivial

/-- It has to be permitted in that view. -/
@[simp] theorem fine_cons (entry : ι) (log : List ι) :
    w.Fine (entry :: log) ↔ w.Fine log ∧ w.permits entry (w.view log) := by
  unfold Fine view
  rw [List.reverse_cons, Runs.along_append]
  exact and_congr_right fun _ => and_iff_left trivial

/-- A part of the log that was made earlier. -/
theorem Fine.of_append {w : Watch ι V} {later earlier : List ι} (fine : w.Fine (later ++ earlier)) :
    w.Fine earlier := by
  induction later with
  | nil => exact fine
  | cons entry later ih => exact ih ((w.fine_cons entry _).mp fine).1

/-- Each entry has the property `P` of the view of those before it. -/
def Always (P : ι → V → Prop) (log : List ι) : Prop :=
  ∀ later entry earlier, log = later ++ entry :: earlier → P entry (w.view earlier)

theorem Always.imp {w : Watch ι V} {P P' : ι → V → Prop} {log : List ι} (always : w.Always P log)
    (weaker : ∀ entry v, P entry v → P' entry v) : w.Always P' log :=
  fun later entry earlier same => weaker entry _ (always later entry earlier same)

/-- A log is fine when each of its entries was permitted in the view of the entries before it. -/
theorem fine_iff_always {log : List ι} : w.Fine log ↔ w.Always w.permits log := by
  apply Iff.intro
  · intro fine later entry earlier same
    rw [same] at fine
    exact ((w.fine_cons entry earlier).mp fine.of_append).2
  · intro permitted
    induction log with
    | nil => exact w.fine_nil
    | cons entry log ih =>
      rw [fine_cons]
      apply And.intro
      · apply ih
        intro later other earlier same
        exact permitted (entry :: later) other earlier (by rw [same, List.cons_append])
      · exact permitted [] entry log rfl

/-- The log is fine and leaves the view `v`. -/
structure Seen (v : V) (log : List ι) : Prop where
  fine : w.Fine log
  view : w.view log = v

theorem seen_nil : w.Seen w.start [] := ⟨w.fine_nil, rfl⟩

/-- One more entry, if it is permitted. -/
theorem Seen.cons {w : Watch ι V} {v : V} {log : List ι} (seen : w.Seen v log) {entry : ι}
    (permitted : w.permits entry v) : w.Seen (w.next entry v) (entry :: log) where
  fine := (w.fine_cons entry log).mpr ⟨seen.fine, by rw [seen.view]; exact permitted⟩
  view := by rw [view_cons, seen.view]

end Watch
