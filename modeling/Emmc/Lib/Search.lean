import Mathlib.Data.BitVec
import Mathlib.Data.Set.Basic

/-!
# Searches

`loop` is a `while` loop that gives up when it has not ended within a number of tests, and `visits` are
the values it tests. `loop_rule` takes an invariant that counts down the rounds that are left.

`LeastOrLast good cands x`: the candidate `x` is the smallest good one, or the largest one if none is
good. `leastOrLast_product` is about two searches in a row, first for a power of two with a fixed factor,
then for the factor.
-/

namespace Search

/-! ## Loops -/

section Loop

variable {α : Type} (cond : α → Bool) (body : α → α)

/-- `while (cond (x)) x = body (x);` with a bound on the number of tests. -/
def loop : Nat → α → Option α
  | 0, _ => none
  | n + 1, x => if cond x then loop n (body x) else some x

/-- The values the condition is tested of. -/
def visits : Nat → α → List α
  | 0, _ => []
  | n + 1, x => x :: if cond x then visits n (body x) else []

/-- `inv n` holds when `n` more rounds are possible at most. -/
theorem loop_rule (inv : Nat → α → Prop) (stop : ∀ x, inv 0 x → cond x = false)
    (step : ∀ n x, inv (n + 1) x → cond x = true → inv n (body x)) :
    ∀ n x, inv n x →
      (∃ y, loop cond body (n + 1) x = some y ∧ (∃ m, inv m y) ∧ cond y = false) ∧
      ∀ y ∈ visits cond body (n + 1) x, ∃ m, inv m y := by
  intro n
  induction n with
  | zero =>
    intro x here
    unfold loop visits
    rw [stop x here, if_neg Bool.false_ne_true, if_neg Bool.false_ne_true]
    apply And.intro ⟨x, rfl, ⟨0, here⟩, stop x here⟩
    intro y member
    rw [List.mem_singleton.mp member]
    exact ⟨0, here⟩
  | succ n ih =>
    intro x here
    unfold loop visits
    cases again : cond x with
    | true =>
      rw [if_pos rfl, if_pos rfl]
      obtain ⟨ends, visited⟩ := ih (body x) (step n x here again)
      apply And.intro ends
      intro y member
      rcases List.mem_cons.mp member with first | later
      · rw [first]
        exact ⟨n + 1, here⟩
      · exact visited y later
    | false =>
      rw [if_neg Bool.false_ne_true, if_neg Bool.false_ne_true]
      apply And.intro ⟨x, rfl, ⟨n + 1, here⟩, again⟩
      intro y member
      rw [List.mem_singleton.mp member]
      exact ⟨n + 1, here⟩

end Loop

/-! ## Best candidates -/

section Candidates

variable {good : Nat → Prop} {cands : Set Nat} {x : Nat}

structure LeastOrLast (good : Nat → Prop) (cands : Set Nat) (x : Nat) : Prop where
  candidate : x ∈ cands
  least : ∀ c ∈ cands, good c → x ≤ c
  last : good x ∨ ∀ c ∈ cands, ¬ good c ∧ c ≤ x

/-- Candidates that are multiples of one factor. -/
theorem LeastOrLast.scale {k : Nat} (best : LeastOrLast (fun c => good (c * k)) cands x) :
    LeastOrLast good ((· * k) '' cands) (x * k) where
  candidate := ⟨x, best.candidate, rfl⟩
  least := by
    intro c member fine
    rcases member with ⟨c', member, rfl⟩
    exact Nat.mul_le_mul_right k (best.least c' member fine)
  last := by
    apply best.last.imp_right
    intro none c member
    rcases member with ⟨c', member, rfl⟩
    exact ⟨(none c' member).1, Nat.mul_le_mul_right k (none c' member).2⟩

/-- Larger candidates are good as well. -/
def Upward (good : Nat → Prop) : Prop := ∀ a b, 0 < a → a ≤ b → good a → good b

/-- A search that has come to `x` in ascending order. -/
theorem leastOrLast_ascending (up : Upward good) (positive : ∀ c ∈ cands, 0 < c)
    (candidate : x ∈ cands) (before : ∀ c ∈ cands, c < x → ¬ good c)
    (ends : good x ∨ ∀ c ∈ cands, c ≤ x) : LeastOrLast good cands x where
  candidate := candidate
  least := by
    intro c member fine
    exact Nat.le_of_not_lt fun less => before c member less fine
  last := by
    rcases Classical.em (good x) with fine | bad
    · exact Or.inl fine
    · apply Or.inr
      intro c member
      have le := ends.resolve_left bad c member
      exact ⟨fun fine => bad (up c x (positive c member) le fine), le⟩

/-- Powers of two up to `2 ^ m`, times factors up to `2 * n`. -/
def products (m n : Nat) : Set Nat :=
  {c | ∃ i ≤ m, ∃ d, 1 ≤ d ∧ d ≤ 2 * n ∧ c = d * 2 ^ i}

/-- First the power is doubled until the largest factor is good enough, then the factor is counted up. -/
theorem leastOrLast_product (up : Upward good) {m n i d : Nat}
    (power : i ≤ m) (tooSmall : ∀ j < i, ¬ good (2 * n * 2 ^ j))
    (enough : good (2 * n * 2 ^ i) ∨ i = m)
    (one : 1 ≤ d) (factor : d ≤ 2 * n) (before : ∀ e, 1 ≤ e → e < d → ¬ good (e * 2 ^ i))
    (ends : good (d * 2 ^ i) ∨ d = 2 * n) :
    LeastOrLast good (products m n) (d * 2 ^ i) := by
  have positive : ∀ c ∈ products m n, 0 < c := by
    intro c member
    rcases member with ⟨j, -, e, oneE, -, rfl⟩
    exact Nat.mul_pos oneE (Nat.two_pow_pos j)
  apply leastOrLast_ascending up positive ⟨i, power, d, one, factor, rfl⟩
  · intro c member less fine
    have some := positive c member
    rcases member with ⟨j, -, e, oneE, limit, rfl⟩
    rcases Nat.lt_or_ge j i with lower | upper
    · -- even the largest factor would not do
      exact tooSmall j lower (up _ _ some (Nat.mul_le_mul_right _ limit) fine)
    · have same : e * 2 ^ j = e * 2 ^ (j - i) * 2 ^ i := by
        rw [Nat.mul_assoc, ← Nat.pow_add, Nat.sub_add_cancel upper]
      rw [same] at less fine
      have smaller := Nat.lt_of_mul_lt_mul_right less
      exact before _ (Nat.mul_pos oneE (Nat.two_pow_pos _)) smaller fine
  · rcases ends with fine | largest
    · exact Or.inl fine
    rw [largest]
    apply enough.imp_right
    intro final c member
    rcases member with ⟨j, bound, e, -, limit, rfl⟩
    rw [final]
    exact Nat.mul_le_mul limit (Nat.pow_le_pow_right (by decide) bound)

end Candidates

end Search
