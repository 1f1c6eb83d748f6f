import Emmc.Lib.Bitfield
import Emmc.Lib.Retry
import Mathlib.Order.Defs.Unbundled

/-!
# What stays as it was

Two kinds of frame conditions. `f.mask` are the bits of a field: a write to `f` leaves every word that is
masked with other bits (`set_and`), and such a word determines the fields it covers (`get_congr`).
`Relates R E m` says how a computation relates the states before and after it: by the preorder `R` when it
returns, by `E` when it throws. `Spares f m` is the case that it leaves what `f` reads of the state alone.
`Carries K L m` says that `K` is kept when it returns, and `L` is what remains when it throws. There is one
rule per construct.
-/

namespace Bitfield

variable {w : Nat}

/-- The bits of the field. -/
def mask (f : Bitfield w) : BitVec w := f.lowMask <<< f.lsb

/-- The mask of a field has the bits from its lowest to its highest one. -/
theorem getLsbD_mask (f : Bitfield w) {i : Nat} (bound : i < w) :
    f.mask.getLsbD i = decide (f.lsb ≤ i ∧ i ≤ f.msb) := by
  have ordered := f.ordered
  unfold mask
  rw [BitVec.getLsbD_shiftLeft, getLsbD_lowMask, decide_eq_true bound, Bool.true_and]
  unfold width
  rcases Nat.lt_or_ge i f.lsb with low | high
  · simp [low]
  · have inner : i - f.lsb < w := by omega
    have range : i - f.lsb < f.msb + 1 - f.lsb ↔ i ≤ f.msb := by omega
    simp [Nat.not_lt.mpr high, high, inner, range]

/-- A write leaves the bits outside the field. -/
theorem set_and {f : Bitfield w} {kept : BitVec w} (clear : f.mask &&& kept = 0) (raw v : BitVec w) :
    f.set raw v &&& kept = raw &&& kept := by
  apply BitVec.eq_of_getLsbD_eq
  intro i bound
  have here : (f.mask &&& kept).getLsbD i = false := by
    rw [clear]
    exact BitVec.getLsbD_zero
  rw [BitVec.getLsbD_and, getLsbD_mask f bound] at here
  rw [BitVec.getLsbD_and, BitVec.getLsbD_and, getLsbD_set f raw v bound]
  by_cases within : f.lsb ≤ i ∧ i ≤ f.msb
  · rw [decide_eq_true within, Bool.true_and] at here
    rw [here, Bool.and_false, Bool.and_false]
  · rw [if_neg within]

/-- The bits that are kept determine the fields they cover. -/
theorem get_congr {f : Bitfield w} {kept a b : BitVec w} (covered : f.mask &&& kept = f.mask)
    (same : a &&& kept = b &&& kept) : f.get a = f.get b := by
  have each : ∀ i, f.lsb + i < w → i < f.width → a.getLsbD (f.lsb + i) = b.getLsbD (f.lsb + i) := by
    intro i bound small
    have ordered := f.ordered
    have inside : f.lsb ≤ f.lsb + i ∧ f.lsb + i ≤ f.msb := by
      unfold width at small
      omega
    have bit := congrArg (fun x => x.getLsbD (f.lsb + i)) covered
    simp only [BitVec.getLsbD_and, getLsbD_mask f bound, decide_eq_true inside, Bool.true_and] at bit
    have both := congrArg (fun x => x.getLsbD (f.lsb + i)) same
    simpa only [BitVec.getLsbD_and, bit, Bool.and_true] using both
  apply BitVec.eq_of_getLsbD_eq
  intro i bound
  rw [getLsbD_get, getLsbD_get]
  by_cases small : i < f.width
  · rcases Nat.lt_or_ge (f.lsb + i) w with within | outside
    · rw [each i within small]
    · rw [BitVec.getLsbD_of_ge a _ outside, BitVec.getLsbD_of_ge b _ outside]
  · simp [small]

/-- Testing a field tests its lowest bit. -/
theorem test_eq_getLsbD_get (f : Bitfield w) (raw : BitVec w) : f.test raw = (f.get raw).getLsbD 0 := by
  have inside := f.inside
  have ordered := f.ordered
  have positive : 0 < f.width := by
    unfold width
    omega
  have room : 0 < w := by omega
  rw [getLsbD_get, decide_eq_true room, decide_eq_true positive]
  rfl

/-- A field that is covered by what is kept tests the same. -/
theorem test_congr {f : Bitfield w} {kept a b : BitVec w} (covered : f.mask &&& kept = f.mask)
    (same : a &&& kept = b &&& kept) : f.test a = f.test b := by
  rw [test_eq_getLsbD_get, test_eq_getLsbD_get, get_congr covered same]

@[simp] theorem test_put_self (f : Bitfield w) (raw : BitVec w) (b : Bool) : f.test (f.put raw b) = b := by
  have inside := f.inside
  have room : 0 < w := by omega
  unfold put
  rw [test_set_self]
  cases b
  · exact BitVec.getLsbD_zero
  · simp [room]

/-- Fields that are apart do not meet. -/
theorem test_put_of_disjoint {f g : Bitfield w} (apart : f.Disjoint g) (raw : BitVec w) (b : Bool) :
    f.test (g.put raw b) = f.test raw :=
  test_set_of_disjoint apart raw _

theorem get_put_of_disjoint {f g : Bitfield w} (apart : f.Disjoint g) (raw : BitVec w) (b : Bool) :
    f.get (g.put raw b) = f.get raw :=
  get_set_of_disjoint apart raw _

/-- Writing outside of what is kept changes nothing of it. -/
theorem put_and {f : Bitfield w} {kept : BitVec w} (clear : f.mask &&& kept = 0) (raw : BitVec w) (b : Bool) :
    f.put raw b &&& kept = raw &&& kept :=
  set_and clear raw _

end Bitfield

namespace Throwing

variable {ε σ τ γ δ α β : Type}

/-! ## Related states -/

/-- `R` relates the states around `m` when it returns, and `E` those around it when it throws. -/
def Relates (R E : σ → σ → Prop) (m : EStateM ε σ α) : Prop :=
  ∀ s, wp m (fun _ s' => R s s') (fun _ s' => E s s') s

/-- What is promised of an exception is also promised when something related by `R` came before. -/
class Outlasts (R E : σ → σ → Prop) : Prop where
  behind : ∀ {s s' s''}, R s s' → E s' s'' → E s s''

section Relates

variable {R E : σ → σ → Prop}

/-- The same promise on both exits. -/
instance [IsTrans σ R] : Outlasts R R := ⟨fun first second => IsTrans.trans _ _ _ first second⟩

/-- Nothing is thrown. -/
instance : Outlasts R fun _ _ => False := ⟨fun _ absurd => absurd⟩

/-- Nothing is promised of an exception. -/
instance : Outlasts R fun _ _ => True := ⟨fun _ _ => trivial⟩

instance reflTrivial : Std.Refl fun _ _ : σ => True := ⟨fun _ => trivial⟩

end Relates

namespace Relates

variable {R E : σ → σ → Prop} {m : EStateM ε σ α}

theorem pure [Std.Refl R] (a : α) : Relates R E (Pure.pure a : EStateM ε σ α) :=
  fun s => Std.Refl.refl s

theorem throw [Std.Refl E] (e : ε) : Relates R E (MonadExcept.throw e : EStateM ε σ α) :=
  fun s => Std.Refl.refl s

theorem get [Std.Refl R] : Relates R E (MonadState.get : EStateM ε σ σ) := fun s => Std.Refl.refl s

theorem modify {g : σ → σ} (related : ∀ s, R s (g s)) : Relates R E (modify g : EStateM ε σ PUnit) :=
  related

theorem bind [IsTrans σ R] [Outlasts R E] {k : α → EStateM ε σ β} (first : Relates R E m)
    (second : ∀ a, Relates R E (k a)) : Relates R E (m >>= k) := by
  intro s
  rw [wp_bind]
  apply (first s).imp
  intro a s₁ related
  exact (second a s₁).mono (fun _ _ related' => IsTrans.trans _ _ _ related related')
    (fun _ _ thrown => Outlasts.behind related thrown)

/-- What follows may look at the present state. -/
theorem get_bind {k : σ → EStateM ε σ β} (second : ∀ s, Relates R E (k s)) :
    Relates R E (MonadState.get >>= k) :=
  fun s => second s s

theorem throw_bind [Std.Refl E] (e : ε) (k : α → EStateM ε σ β) :
    Relates R E (MonadExcept.throw e >>= k) :=
  fun s => Std.Refl.refl s

theorem ite {c : Prop} [Decidable c] {n : EStateM ε σ α} (yes : Relates R E m) (no : Relates R E n) :
    Relates R E (if c then m else n) := by
  by_cases h : c
  · rwa [if_pos h]
  · rwa [if_neg h]

/-- A handler goes on where the exception was thrown. -/
theorem tryCatch [IsTrans σ R] {handler : ε → EStateM ε σ α} (body : Relates R R m)
    (handled : ∀ e, Relates R R (handler e)) : Relates R R (tryCatch m handler) := by
  intro s
  rw [wp_tryCatch]
  apply (body s).mono (fun _ _ related => related)
  intro e s₁ related
  exact (handled e s₁).mono (fun _ _ related' => IsTrans.trans _ _ _ related related')
    (fun _ _ related' => IsTrans.trans _ _ _ related related')

/-- A computation on a part of the state. -/
theorem zoom {part : σ → τ} {put : τ → σ → σ} {R' E' : τ → τ → Prop} {n : EStateM ε τ α}
    (inner : Relates R' E' n) (ok : ∀ s t, R' (part s) t → R s (put t s))
    (err : ∀ s t, E' (part s) t → E s (put t s)) : Relates R E (Throwing.zoom part put n) := by
  intro s
  rw [wp_zoom]
  exact (inner (part s)).mono (fun _ t => ok s t) (fun _ t => err s t)

end Relates

/-- What `f` reads of the state is the same. -/
def Same (f : σ → γ) (s s' : σ) : Prop := f s' = f s

instance (f : σ → γ) : IsPreorder σ (Same f) where
  refl _ := rfl
  trans _ _ _ first second := second.trans first

/-- Whether it returns or throws, `m` leaves what `f` reads as it was. -/
def Spares (f : σ → γ) (m : EStateM ε σ α) : Prop := Relates (Same f) (Same f) m

/-- What a part of the state says of `g` is spared with it. -/
theorem Spares.zoom {f : σ → γ} {part : σ → τ} {put : τ → σ → σ} {g : τ → δ} {n : EStateM ε τ α}
    (spared : Spares g n) (frame : ∀ s t, g t = g (part s) → f (put t s) = f s) :
    Spares f (Throwing.zoom part put n) :=
  Relates.zoom spared frame frame

/-- A computation on a part of the state that `f` does not read. -/
theorem Spares.zoom_apart {f : σ → γ} {part : σ → τ} {put : τ → σ → σ}
    (apart : ∀ s t, f (put t s) = f s) (n : EStateM ε τ α) : Spares f (Throwing.zoom part put n) := by
  intro s
  rw [wp_zoom]
  exact (wp_any n (part s)).mono (fun _ t _ => apart s t) (fun _ t _ => apart s t)

/-- The states left behind, with what `f` reads as it was before. -/
theorem Spares.keep {f : σ → γ} {m : EStateM ε σ α} (spared : Spares f m) {Q : α → σ → Prop}
    {E : ε → σ → Prop} {s : σ} (ok : ∀ a s', f s' = f s → Q a s') (err : ∀ e s', f s' = f s → E e s') :
    wp m Q E s :=
  (spared s).mono ok err

/-- What is spared keeps what is said of it. -/
theorem Spares.keeps {f : σ → γ} {m : EStateM ε σ α} (spared : Spares f m) (P : γ → Prop) :
    Keeps (fun s => P (f s)) m :=
  fun s here => (spared s).mono (fun _ _ same => (congrArg P same).mpr here)
    (fun _ _ same => (congrArg P same).mpr here)

/-! ## One promise for each exit -/

/-- With `K` before, the computation returns with `K` or throws with `L`. -/
def Carries (K L : σ → Prop) (m : EStateM ε σ α) : Prop :=
  ∀ s, K s → wp m (fun _ s' => K s') (fun _ s' => L s') s

namespace Carries

variable {K L : σ → Prop} {m : EStateM ε σ α}

theorem pure (a : α) : Carries K L (Pure.pure a : EStateM ε σ α) := fun _ here => here

theorem throw (weaker : ∀ s, K s → L s) (e : ε) : Carries K L (MonadExcept.throw e : EStateM ε σ α) :=
  weaker

theorem throw_bind (weaker : ∀ s, K s → L s) (e : ε) (k : α → EStateM ε σ β) :
    Carries K L (MonadExcept.throw e >>= k) :=
  weaker

/-- What follows may use that it sees the present state. -/
theorem get_bind {k : σ → EStateM ε σ β} (second : ∀ s, K s → Carries K L (k s)) :
    Carries K L (MonadState.get >>= k) :=
  fun s here => second s here s here

theorem ite {c : Prop} [Decidable c] {n : EStateM ε σ α} (yes : Carries K L m) (no : Carries K L n) :
    Carries K L (if c then m else n) := by
  by_cases h : c
  · rwa [if_pos h]
  · rwa [if_neg h]

/-- The second part has to keep the promise for the results of the first one. -/
theorem bind_yields {k : α → EStateM ε σ β} {R : α → Prop} (first : Carries K L m)
    (yields : Yields R m) (second : ∀ a, R a → Carries K L (k a)) : Carries K L (m >>= k) :=
  fun s here => ((first s here).yields yields).bind fun a s' both => second a both.2 s' both.1

theorem bind {k : α → EStateM ε σ β} (first : Carries K L m) (second : ∀ a, Carries K L (k a)) :
    Carries K L (m >>= k) :=
  first.bind_yields (yields_any m) fun a _ => second a

/-- A loop whose iterations carry. -/
theorem retry {body : α → EStateM ε σ (α ⊕ β)} (each : ∀ a, Carries K L (body a)) (rounds : Nat) :
    ∀ a, Carries K L (Throwing.retry body rounds a) := by
  induction rounds with
  | zero => exact fun _ => .pure none
  | succ rounds ih =>
    intro a
    apply (each a).bind
    intro r
    cases r with
    | inl a' => exact ih a'
    | inr b => exact .pure (some b)

end Carries

end Throwing
