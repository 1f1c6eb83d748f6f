import Mathlib.Init

/-!
# Computations that throw without rolling back

`EStateM ε σ α` is imperative code with exceptions: a computation started in a state either
returns or throws, and in both cases the state it had reached is the state that is left behind.
This module is the program logic of that shape.

* `wp m Q E s`: started in `s`, the computation `m` returns in a state described by `Q` or throws
  in a state described by `E`.
* the `wp_*` equations walk a `do` block; `wp.mono` and `wp.and` use the specification of a callee.
* `zoom` runs a computation on a part of the state, and `after` is the state left behind.
* `Keeps I m`: the computation keeps the invariant `I`, on both exits; one rule per construct.
* `Yields R m`: what the computation returns has the property `R`, wherever it is started.
-/

namespace Throwing

variable {ε σ τ α β : Type}

/-- Started in `s`, `m` returns with `Q` or throws with `E`. -/
def wp (m : EStateM ε σ α) (Q : α → σ → Prop) (E : ε → σ → Prop) (s : σ) : Prop :=
  match m s with
  | .ok a s' => Q a s'
  | .error e s' => E e s'

/-- The state left behind, whether the computation returned or threw. -/
def after (m : EStateM ε σ α) (s : σ) : σ :=
  match m s with
  | .ok _ s' => s'
  | .error _ s' => s'

/-- What the computation returns, if it does. -/
def result (m : EStateM ε σ α) (s : σ) : Option α :=
  match m s with
  | .ok a _ => some a
  | .error _ _ => none

/-- The computation returns. -/
def returns (m : EStateM ε σ α) (s : σ) : Prop :=
  wp m (fun _ _ => True) (fun _ _ => False) s

/-- Run `m` on the part of the state that `part` reads and `put` replaces. -/
def zoom (part : σ → τ) (put : τ → σ → σ) (m : EStateM ε τ α) : EStateM ε σ α := fun s =>
  match m (part s) with
  | .ok a t => .ok a (put t s)
  | .error e t => .error e (put t s)

variable {Q Q' : α → σ → Prop} {E E' : ε → σ → Prop} {s : σ}

/-- Along a run that returns, only the first postcondition counts. -/
theorem wp_of_ok {m : EStateM ε σ α} {a : α} {s' : σ} (run : m s = .ok a s') :
    wp m Q E s ↔ Q a s' := by
  simp only [wp, run]

/-- And along one that throws, only the second. -/
theorem wp_of_error {m : EStateM ε σ α} {e : ε} {s' : σ} (run : m s = .error e s') :
    wp m Q E s ↔ E e s' := by
  simp only [wp, run]

/-! ## Running a `do` block -/

/-- A part that returns is followed by the next one. -/
theorem bind_of_ok {m : EStateM ε σ α} {a : α} {s' : σ} (run : m s = .ok a s')
    (f : α → EStateM ε σ β) : (m >>= f) s = f a s' := by
  show EStateM.bind m f s = _
  rw [EStateM.bind, run]

/-- A part that throws is not. -/
theorem bind_of_error {m : EStateM ε σ α} {e : ε} {s' : σ} (run : m s = .error e s')
    (f : α → EStateM ε σ β) : (m >>= f) s = .error e s' := by
  show EStateM.bind m f s = _
  rw [EStateM.bind, run]

/-! ## Walking a `do` block -/

@[simp] theorem wp_pure (a : α) : wp (pure a : EStateM ε σ α) Q E s ↔ Q a s := Iff.rfl

@[simp] theorem wp_throw (e : ε) : wp (throw e : EStateM ε σ α) Q E s ↔ E e s := Iff.rfl

@[simp] theorem wp_get {Q : σ → σ → Prop} : wp (get : EStateM ε σ σ) Q E s ↔ Q s s := Iff.rfl

@[simp] theorem wp_set {Q : PUnit → σ → Prop} (s' : σ) :
    wp (set s' : EStateM ε σ PUnit) Q E s ↔ Q ⟨⟩ s' := Iff.rfl

@[simp] theorem wp_modify {Q : PUnit → σ → Prop} (f : σ → σ) :
    wp (modify f : EStateM ε σ PUnit) Q E s ↔ Q ⟨⟩ (f s) := Iff.rfl

/-- The postcondition of the first part is the precondition of the second; an exception skips it. -/
@[simp] theorem wp_bind {Q : β → σ → Prop} (m : EStateM ε σ α) (f : α → EStateM ε σ β) :
    wp (m >>= f) Q E s ↔ wp m (fun a s' => wp (f a) Q E s') E s := by
  show wp (EStateM.bind m f) Q E s ↔ _
  unfold wp EStateM.bind
  cases m s <;> rfl

@[simp] theorem wp_map {Q : β → σ → Prop} (m : EStateM ε σ α) (f : α → β) :
    wp (f <$> m) Q E s ↔ wp m (fun a s' => Q (f a) s') E s := by
  show wp (EStateM.map f m) Q E s ↔ _
  unfold wp EStateM.map
  cases m s <;> rfl

/-- An exception of the body starts the handler in the state that it has left. -/
@[simp] theorem wp_tryCatch (m : EStateM ε σ α) (handler : ε → EStateM ε σ α) :
    wp (tryCatch m handler) Q E s ↔ wp m Q (fun e s' => wp (handler e) Q E s') s := by
  show wp (EStateM.tryCatch m handler) Q E s ↔ _
  unfold wp EStateM.tryCatch
  cases m s <;> rfl

/-- A computation on a part of the state is a computation on the whole. -/
@[simp] theorem wp_zoom {Q : α → σ → Prop} (part : σ → τ) (put : τ → σ → σ)
    (m : EStateM ε τ α) :
    wp (zoom part put m) Q E s ↔
      wp m (fun a t => Q a (put t s)) (fun e t => E e (put t s)) (part s) := by
  unfold wp zoom
  cases m (part s) <;> rfl

/-- Each branch under its own condition. -/
theorem wp_ite (c : Prop) [Decidable c] (m n : EStateM ε σ α) :
    wp (if c then m else n) Q E s ↔ (c → wp m Q E s) ∧ (¬ c → wp n Q E s) := by
  by_cases h : c <;> simp [h]

/-! ## Using a specification -/

/-- Both postconditions can be weakened. -/
theorem wp.mono {m : EStateM ε σ α} (spec : wp m Q E s)
    (ok : ∀ a s', Q a s' → Q' a s') (err : ∀ e s', E e s' → E' e s') : wp m Q' E' s := by
  unfold wp at *
  cases run : m s with
  | ok a s' => rw [run] at spec; exact ok a s' spec
  | error e s' => rw [run] at spec; exact err e s' spec

/-- The first one alone, where an exception is of no interest. -/
theorem wp.imp {m : EStateM ε σ α} (spec : wp m Q E s) (ok : ∀ a s', Q a s' → Q' a s') :
    wp m Q' E s :=
  spec.mono ok (fun _ _ thrown => thrown)

/-- What does not throw keeps any promise about it. -/
theorem wp.imp_ok {m : EStateM ε σ α} (spec : wp m Q (fun _ _ => False) s)
    (ok : ∀ a s', Q a s' → Q' a s') : wp m Q' E s :=
  spec.mono ok (fun _ _ absurd => absurd.elim)

/-- Two specifications of one computation hold together. -/
theorem wp.and {m : EStateM ε σ α} (left : wp m Q E s) (right : wp m Q' E' s) :
    wp m (fun a s' => Q a s' ∧ Q' a s') (fun e s' => E e s' ∧ E' e s') s := by
  unfold wp at *
  cases run : m s with
  | ok a s' => rw [run] at left right; exact ⟨left, right⟩
  | error e s' => rw [run] at left right; exact ⟨left, right⟩

/-- Every computation returns or throws. -/
theorem wp_any (m : EStateM ε σ α) (s : σ) : wp m (fun _ _ => True) (fun _ _ => True) s := by
  rw [wp]
  cases m s with
  | ok a s' => trivial
  | error e s' => trivial

/-- The second part of a sequence starts where the first one ends; both throw alike. -/
theorem wp.bind {m : EStateM ε σ α} {f : α → EStateM ε σ β} {Q' : β → σ → Prop} (first : wp m Q E s)
    (second : ∀ a s', Q a s' → wp (f a) Q' E s') : wp (m >>= f) Q' E s := by
  rw [wp_bind]
  exact first.imp second

/-- The same when the first part does not throw. -/
theorem wp.bind_ok {m : EStateM ε σ α} {f : α → EStateM ε σ β} {Q' : β → σ → Prop}
    (first : wp m Q (fun _ _ => False) s) (second : ∀ a s', Q a s' → wp (f a) Q' E s') :
    wp (m >>= f) Q' E s := by
  rw [wp_bind]
  exact first.imp_ok second

/-- The result of a sequence is that of its last part. -/
theorem wp_second {m : EStateM ε σ α} {f : α → EStateM ε σ β} {Q : β → σ → Prop}
    (second : ∀ a s', wp (f a) Q (fun _ _ => True) s') : wp (m >>= f) Q (fun _ _ => True) s := by
  rw [wp_bind]
  exact (wp_any m s).mono (fun a s' _ => second a s') (fun _ _ _ => trivial)

/-- Something becomes of every computation. -/
theorem wp_false {m : EStateM ε σ α} (none : wp m (fun _ _ => False) (fun _ _ => False) s) : False := by
  unfold wp at none
  cases run : m s with
  | ok a s' => rw [run] at none; exact none
  | error e s' => rw [run] at none; exact none

/-- A computation that returns leaves its `after` behind. -/
theorem wp_after {m : EStateM ε σ α} (ok : returns m s) :
    wp m (fun _ s' => s' = after m s) (fun _ _ => False) s := by
  unfold returns wp at ok
  unfold wp after
  cases run : m s with
  | ok a s' => rfl
  | error e s' => rw [run] at ok; exact ok

/-- A property of the state left behind, whatever the outcome. -/
theorem after_of_wp {m : EStateM ε σ α} {P : σ → Prop}
    (spec : wp m (fun _ s' => P s') (fun _ s' => P s') s) : P (after m s) := by
  unfold wp at spec
  unfold after
  cases run : m s with
  | ok a s' => rw [run] at spec; exact spec
  | error e s' => rw [run] at spec; exact spec

/-- A result says that the run has returned. -/
theorem ok_of_result {m : EStateM ε σ α} {a : α} (returned : result m s = some a) :
    m s = .ok a (after m s) := by
  unfold result at returned
  unfold after
  cases run : m s with
  | ok b s' =>
    rw [run] at returned
    cases returned
    rfl
  | error e s' =>
    rw [run] at returned
    cases returned

/-! ## Results -/

/-- What `m` returns has the property `R`, whatever the state. -/
def Yields (R : α → Prop) (m : EStateM ε σ α) : Prop :=
  ∀ s, wp m (fun a _ => R a) (fun _ _ => True) s

theorem yields_any (m : EStateM ε σ α) : Yields (fun _ => True) m := wp_any m

/-- What the results satisfy can be used with any specification. -/
theorem wp.yields {m : EStateM ε σ α} {R : α → Prop} (spec : wp m Q E s) (yields : Yields R m) :
    wp m (fun a s' => Q a s' ∧ R a) E s :=
  (spec.and (yields s)).mono (fun _ _ both => both) (fun _ _ both => both.1)

/-! ## Invariants -/

/-- Whether it returns or throws, `m` keeps `I`. -/
def Keeps (I : σ → Prop) (m : EStateM ε σ α) : Prop :=
  ∀ s, I s → wp m (fun _ s' => I s') (fun _ s' => I s') s

variable {I : σ → Prop}

theorem keeps_pure (a : α) : Keeps I (pure a : EStateM ε σ α) := fun _ inv => inv

theorem keeps_throw (e : ε) : Keeps I (throw e : EStateM ε σ α) := fun _ inv => inv

theorem keeps_modify {f : σ → σ} (kept : ∀ s, I s → I (f s)) :
    Keeps I (modify f : EStateM ε σ PUnit) := kept

/-- An invariant of both parts is one of the sequence. -/
theorem Keeps.bind {m : EStateM ε σ α} {f : α → EStateM ε σ β} (first : Keeps I m)
    (second : ∀ a, Keeps I (f a)) : Keeps I (m >>= f) := by
  intro s inv
  rw [wp_bind]
  exact (first s inv).mono (fun a s' inv' => second a s' inv') (fun _ _ inv' => inv')

/-- What follows only sees the results that there are. -/
theorem Keeps.bind_yields {m : EStateM ε σ α} {f : α → EStateM ε σ β} {R : α → Prop}
    (first : Keeps I m) (yields : Yields R m) (second : ∀ a, R a → Keeps I (f a)) :
    Keeps I (m >>= f) := by
  intro s inv
  rw [wp_bind]
  exact ((first s inv).yields yields).mono (fun a s' both => second a both.2 s' both.1)
    (fun _ _ inv' => inv')

/-- What follows may use that it sees the present state. -/
theorem keeps_get_bind {f : σ → EStateM ε σ β}
    (second : ∀ s, I s → wp (f s) (fun _ s' => I s') (fun _ s' => I s') s) :
    Keeps I (get >>= f) := by
  intro s inv
  rw [wp_bind, wp_get]
  exact second s inv

/-- And of a body with its handler. -/
theorem Keeps.tryCatch {m : EStateM ε σ α} {handler : ε → EStateM ε σ α} (body : Keeps I m)
    (handled : ∀ e, Keeps I (handler e)) : Keeps I (tryCatch m handler) := by
  intro s inv
  rw [wp_tryCatch]
  exact (body s inv).mono (fun _ _ inv' => inv') (fun e s' inv' => handled e s' inv')

theorem Keeps.ite {c : Prop} [Decidable c] {m n : EStateM ε σ α} (yes : Keeps I m)
    (no : Keeps I n) : Keeps I (if c then m else n) := by
  by_cases h : c
  · rw [if_pos h]
    exact yes
  · rw [if_neg h]
    exact no

/-- It holds in the state behind the run, however that has ended. -/
theorem Keeps.after {m : EStateM ε σ α} (keeps : Keeps I m) {s : σ} (inv : I s) :
    I (after m s) :=
  after_of_wp (keeps s inv)

end Throwing
