import Mathlib.Data.Finmap

/-!
# Finite maps of finite maps

A map from a first key to maps from a second key, with the operations that the iterators of such a
container offer.  An inner map that becomes empty is dropped, so that the outer map is empty
exactly when nothing can be found in it (`Tight.eq_empty`).

* `emplace` keeps an entry that exists, on one level and on two.
* `find` is described after every operation, at the key and at any other one.
-/

namespace TwoLevel

variable {K O V : Type} [DecidableEq K]

/-- Insert an entry unless there is one with this key. -/
def emplace (k : K) (v : V) (m : Finmap fun _ : K => V) : Finmap fun _ : K => V :=
  if k ∈ m then m else m.insert k v

/-- `emplace` enters a value under a key that was free. -/
theorem lookup_emplace_self {k : K} (v : V) {m : Finmap fun _ : K => V} (free : m.lookup k = none) :
    (emplace k v m).lookup k = some v := by
  rw [emplace, if_neg (Finmap.lookup_eq_none.mp free), Finmap.lookup_insert]

/-- And it silently keeps an entry that is already there. -/
theorem emplace_of_mem {k : K} (v : V) {m : Finmap fun _ : K => V} (present : k ∈ m) :
    emplace k v m = m :=
  if_pos present

/-- Other keys are not touched. -/
theorem lookup_emplace_of_ne {k k' : K} (v : V) (m : Finmap fun _ : K => V) (other : k' ≠ k) :
    (emplace k v m).lookup k' = m.lookup k' := by
  by_cases present : k ∈ m
  · rw [emplace_of_mem v present]
  · rw [emplace, if_neg present, Finmap.lookup_insert_of_ne m other]

/-- A map with two levels. -/
abbrev Map (K O V : Type) := Finmap fun _ : K => Finmap fun _ : O => V

/-- The inner map of a first key; `operator[]` of the container. -/
def inner (m : Map K O V) (k : K) : Finmap fun _ : O => V := (m.lookup k).getD ∅

/-- No inner map is empty. -/
def Tight (m : Map K O V) : Prop := ∀ k, m.lookup k ≠ some ∅

variable {m : Map K O V} {k k' : K} {o o' : O}

/-! ## Inner maps -/

/-- The inner map that was written is read back. -/
theorem inner_insert_self (m : Map K O V) (k : K) (i : Finmap fun _ : O => V) :
    inner (m.insert k i) k = i := by
  rw [inner, Finmap.lookup_insert, Option.getD_some]

/-- The inner maps of the other keys stay. -/
theorem inner_insert_of_ne (m : Map K O V) (i : Finmap fun _ : O => V) (other : k' ≠ k) :
    inner (m.insert k i) k' = inner m k' := by
  rw [inner, Finmap.lookup_insert_of_ne m other, inner]

/-- Without its outer key, an inner map counts as empty. -/
theorem inner_erase_self (m : Map K O V) (k : K) : inner (Finmap.erase k m) k = ∅ := by
  rw [inner, Finmap.lookup_erase, Option.getD_none]

theorem inner_erase_of_ne (m : Map K O V) (other : k' ≠ k) :
    inner (Finmap.erase k m) k' = inner m k' := by
  rw [inner, Finmap.lookup_erase_ne other, inner]

theorem tight_empty : Tight (∅ : Map K O V) := by
  intro k found
  cases found

/-! ## Entries -/

variable [DecidableEq O]

def find (m : Map K O V) (k : K) (o : O) : Option V := (inner m k).lookup o

/-- Insert an entry unless there is one with these keys. -/
def emplace₂ (m : Map K O V) (k : K) (o : O) (v : V) : Map K O V :=
  m.insert k (emplace o v (inner m k))

/-- Write an entry. -/
def put (m : Map K O V) (k : K) (o : O) (v : V) : Map K O V :=
  m.insert k ((inner m k).insert o v)

/-- Erase an entry, and with the last entry of an inner map this inner map. -/
def erase [DecidableEq V] (m : Map K O V) (k : K) (o : O) : Map K O V :=
  if (inner m k).erase o = ∅ then Finmap.erase k m else m.insert k ((inner m k).erase o)

/-- What was put is found. -/
theorem find_put_self (m : Map K O V) (k : K) (o : O) (v : V) : find (put m k o v) k o = some v := by
  rw [find, put, inner_insert_self, Finmap.lookup_insert]

/-- Two entries differ in one of their two keys, and then they do not meet. -/
theorem find_put_of_ne (m : Map K O V) (v : V) (other : (k', o') ≠ (k, o)) :
    find (put m k o v) k' o' = find m k' o' := by
  rw [find, put]
  by_cases same : k' = k
  · rw [same, inner_insert_self, Finmap.lookup_insert_of_ne _ (fun h => other (by rw [same, h])),
      find]
  · rw [inner_insert_of_ne m _ same, find]

/-- A lookup behind `put`, in one case distinction. -/
theorem find_put (m : Map K O V) (v : V) :
    find (put m k o v) k' o' = if (k', o') = (k, o) then some v else find m k' o' := by
  by_cases same : (k', o') = (k, o)
  · cases same
    rw [if_pos rfl, find_put_self]
  · rw [if_neg same, find_put_of_ne m v same]

/-- Where nothing is found, `emplace` on both levels is `put`. -/
theorem emplace₂_eq_put (v : V) (free : find m k o = none) : emplace₂ m k o v = put m k o v := by
  rw [emplace₂, emplace, if_neg (Finmap.lookup_eq_none.mp free), put]

/-- What was erased is not found, whether or not its inner map has gone with it. -/
theorem find_erase_self [DecidableEq V] (m : Map K O V) (k : K) (o : O) :
    find (erase m k o) k o = none := by
  rw [find, erase]
  by_cases last : (inner m k).erase o = ∅
  · rw [if_pos last, inner_erase_self, Finmap.lookup_empty]
  · rw [if_neg last, inner_insert_self, Finmap.lookup_erase]

/-- All the other entries survive, also when an inner map is dropped: it was empty. -/
theorem find_erase_of_ne [DecidableEq V] (m : Map K O V) (other : (k', o') ≠ (k, o)) :
    find (erase m k o) k' o' = find m k' o' := by
  rw [find, erase]
  by_cases same : k' = k
  · have offset : o' ≠ o := fun h => other (by rw [same, h])
    rw [same, find, ← Finmap.lookup_erase_ne (s := inner m k) offset]
    by_cases last : (inner m k).erase o = ∅
    · rw [if_pos last, inner_erase_self, last]
    · rw [if_neg last, inner_insert_self]
  · by_cases last : (inner m k).erase o = ∅
    · rw [if_pos last, inner_erase_of_ne m same, find]
    · rw [if_neg last, inner_insert_of_ne m _ same, find]

/-- A lookup behind `erase`, in one case distinction. -/
theorem find_erase [DecidableEq V] (m : Map K O V) :
    find (erase m k o) k' o' = if (k', o') = (k, o) then none else find m k' o' := by
  by_cases same : (k', o') = (k, o)
  · cases same
    rw [if_pos rfl, find_erase_self]
  · rw [if_neg same, find_erase_of_ne m same]

/-! ## No empty inner map -/

/-- An inner map with an entry is not empty. -/
theorem Tight.put (tight : Tight m) (k : K) (o : O) (v : V) : Tight (put m k o v) := by
  intro k' found
  by_cases same : k' = k
  · rw [TwoLevel.put, same, Finmap.lookup_insert] at found
    have absent : o ∉ (inner m k).insert o v := by
      rw [Option.some.inj found]
      exact Finmap.notMem_empty
    exact absent (Finmap.mem_insert.mpr (Or.inl rfl))
  · rw [TwoLevel.put, Finmap.lookup_insert_of_ne m same] at found
    exact tight k' found

/-- An inner map that has become empty is dropped. -/
theorem Tight.erase [DecidableEq V] (tight : Tight m) (k : K) (o : O) : Tight (erase m k o) := by
  intro k' found
  rw [TwoLevel.erase] at found
  by_cases last : (inner m k).erase o = ∅
  · rw [if_pos last] at found
    by_cases same : k' = k
    · rw [same, Finmap.lookup_erase] at found
      cases found
    · rw [Finmap.lookup_erase_ne same] at found
      exact tight k' found
  · rw [if_neg last] at found
    by_cases same : k' = k
    · rw [same, Finmap.lookup_insert] at found
      exact last (Option.some.inj found)
    · rw [Finmap.lookup_insert_of_ne m same] at found
      exact tight k' found

/-- A map without empty inner maps is empty when nothing can be found in it. -/
theorem Tight.eq_empty (tight : Tight m) (nothing : ∀ k o, find m k o = none) : m = ∅ := by
  apply Finmap.ext_lookup
  intro k
  cases found : m.lookup k with
  | none => rfl
  | some i =>
    have empty : i = ∅ := by
      apply Finmap.ext_lookup
      intro o
      have none := nothing k o
      rw [find, inner, found, Option.getD_some] at none
      exact none
    rw [empty] at found
    exact absurd found (tight k)

end TwoLevel
