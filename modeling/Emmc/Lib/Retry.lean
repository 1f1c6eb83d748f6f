import Emmc.Lib.Throwing

/-!
# Loops that try again

`retry body` is `for (;;)` around a body that returns `inl a` to go on with `a` (`continue`) or `inr b`
to leave the loop (`break`), with a bound on the number of iterations. The body may throw at any time.

* `retry_rule`: an invariant of the iterations, and what holds when the loop is left. A size that each
  `continue` makes smaller also bounds the number of iterations.
* `retry_keeps`: the same for any bound, which may be reached.
* `retry_enough`: more iterations than that change nothing.
-/

namespace Throwing

variable {ε σ α β : Type}

/-- `none` when the loop was not left within the given number of iterations. -/
def retry (body : α → EStateM ε σ (α ⊕ β)) : Nat → α → EStateM ε σ (Option β)
  | 0, _ => return none
  | rounds + 1, a => do
    match ← body a with
    | .inl a' => retry body rounds a'
    | .inr b => return some b

/-- What one iteration does when each `continue` has to keep `inv` and to make `size` smaller. -/
def Shrinks (body : α → EStateM ε σ (α ⊕ β)) (size : α → Nat) (inv : α → σ → Prop)
    (Q : β → σ → Prop) (E : ε → σ → Prop) : Prop :=
  ∀ a s, inv a s →
    wp (body a)
      (fun r s' => match r with
        | .inl a' => size a' < size a ∧ inv a' s'
        | .inr b => Q b s')
      E s

variable {body : α → EStateM ε σ (α ⊕ β)} {size : α → Nat} {inv : α → σ → Prop}
  {Q : β → σ → Prop} {E : ε → σ → Prop}

theorem retry_rule (shrinks : Shrinks body size inv Q E) :
    ∀ {rounds : Nat} {a : α} {s : σ}, size a < rounds → inv a s →
      wp (retry body rounds a) (fun r s' => ∃ b, r = some b ∧ Q b s') E s := by
  intro rounds
  induction rounds with
  | zero =>
    intro a s bound
    exact absurd bound (Nat.not_lt_zero _)
  | succ rounds ih =>
    intro a s bound here
    unfold retry
    rw [wp_bind]
    apply (shrinks a s here).mono
    · intro r s' outcome
      cases r with
      | inl a' => exact ih (Nat.lt_of_lt_of_le outcome.1 (Nat.le_of_lt_succ bound)) outcome.2
      | inr b => exact ⟨b, rfl, outcome⟩
    · exact fun _ _ thrown => thrown

/-- Whatever the bound is, the invariant holds when it is reached. -/
theorem retry_keeps (shrinks : Shrinks body size inv Q E) :
    ∀ {rounds : Nat} {a : α} {s : σ}, inv a s →
      wp (retry body rounds a)
        (fun r s' => match r with
          | none => ∃ a', inv a' s'
          | some b => Q b s')
        E s := by
  intro rounds
  induction rounds with
  | zero => exact fun here => ⟨_, here⟩
  | succ rounds ih =>
    intro a s here
    unfold retry
    rw [wp_bind]
    apply (shrinks a s here).mono
    · intro r s' outcome
      cases r with
      | inl a' => exact ih outcome.2
      | inr b => exact outcome
    · exact fun _ _ thrown => thrown

/-- A loop that was left, or threw, does so with a larger bound as well. -/
theorem retry_mono {rounds more : Nat} (le : rounds ≤ more) :
    ∀ {a : α} {s : σ}, wp (retry body rounds a) (fun r _ => r ≠ none) (fun _ _ => True) s →
      retry body more a s = retry body rounds a s := by
  induction rounds generalizing more with
  | zero =>
    intro a s ends
    exact absurd rfl ends
  | succ rounds ih =>
    intro a s ends
    cases more with
    | zero => exact absurd le (Nat.not_succ_le_zero _)
    | succ more =>
      unfold retry at ends ⊢
      rw [wp_bind] at ends
      cases run : body a s with
      | error e s' => rw [bind_of_error run, bind_of_error run]
      | ok r s' =>
        rw [bind_of_ok run, bind_of_ok run]
        rw [wp_of_ok run] at ends
        cases r with
        | inl a' => exact ih (Nat.le_of_succ_le_succ le) ends
        | inr b => rfl

/-- Any bound above the size gives the same. -/
theorem retry_enough (shrinks : Shrinks body size inv Q E) {rounds more : Nat} {a : α} {s : σ}
    (bound : size a < rounds) (le : rounds ≤ more) (here : inv a s) :
    retry body more a s = retry body rounds a s := by
  apply retry_mono le
  apply (retry_rule shrinks bound here).mono
  · intro r s' left
    rcases left with ⟨b, rfl, -⟩
    exact Option.some_ne_none b
  · exact fun _ _ _ => trivial

end Throwing
