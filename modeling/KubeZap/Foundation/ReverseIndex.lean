import Mathlib.Data.Finset.Basic

/-! # Reverse indexes

Which objects depend on a key, kept next to which keys an object depends on. The
two directions agree in every value of the type, so an update may rely on one of
them to find what it has to clear in the other. In memory each direction is a map of
sets, with an entry only where the set is not empty.
-/

namespace Foundation

/-- The objects of each key and the keys of each object, both as sets. -/
structure ReverseIndex (K O : Type) where
  byKey : K → List O
  byObject : O → List K
  coherent : ∀ k o, o ∈ byKey k ↔ k ∈ byObject o
  nodup : ∀ k, (byKey k).Nodup

namespace ReverseIndex

variable {K O : Type}

def empty : ReverseIndex K O where
  byKey _ := []
  byObject _ := []
  coherent := by simp
  nodup _ := List.nodup_nil

variable [DecidableEq K] [DecidableEq O]

variable (idx : ReverseIndex K O)

/-- The objects of `k` after `o` was removed from the keys it depended on. -/
def cleared (o : O) (k : K) : List O :=
  if k ∈ idx.byObject o then (idx.byKey k).erase o else idx.byKey k

theorem mem_cleared (o o' : O) (k : K) : o' ∈ idx.cleared o k ↔ o' ≠ o ∧ o' ∈ idx.byKey k := by
  unfold cleared
  split
  · exact (idx.nodup k).mem_erase_iff
  next hk =>
    have hno : o ∉ idx.byKey k := fun h => hk ((idx.coherent k o).mp h)
    constructor
    · intro h
      exact ⟨fun he => hno (he ▸ h), h⟩
    · exact And.right

theorem cleared_nodup (o : O) (k : K) : (idx.cleared o k).Nodup := by
  unfold cleared
  split
  · exact (idx.nodup k).erase o
  · exact idx.nodup k

def update (idx : ReverseIndex K O) (o : O) (keys : List K) : ReverseIndex K O where
  byKey k := if k ∈ keys then (idx.cleared o k).insert o else idx.cleared o k
  byObject := Function.update idx.byObject o keys
  coherent k o' := by
    by_cases ho : o' = o
    · subst ho
      rw [Function.update_self]
      split <;> simp_all [mem_cleared]
    · rw [Function.update_of_ne ho, ← idx.coherent]
      split <;> simp [mem_cleared, ho]
  nodup k := by
    split
    · exact List.Nodup.insert (idx.cleared_nodup o k)
    · exact idx.cleared_nodup o k

def remove (o : O) : ReverseIndex K O := idx.update o []

@[simp] theorem byObject_update (o : O) (keys : List K) :
    (idx.update o keys).byObject = Function.update idx.byObject o keys := rfl

end ReverseIndex

/-! ## Maps of sets -/

section Stored

variable {K V : Type} [DecidableEq V]

/-- A set as a map has it. An entry that is missing reads as the empty set. -/
def stored (set : Finset V) : Option (Finset V) := if set = ∅ then none else some set

@[simp] theorem stored_eq_none {set : Finset V} : stored set = none ↔ set = ∅ := by simp [stored]

theorem stored_ne (set : Finset V) : stored set ≠ some ∅ := by
  unfold stored
  split
  · simp
  next h => simpa using h

@[simp] theorem stored_getD (set : Finset V) : (stored set).getD ∅ = set := by
  unfold stored
  split
  next h => exact h.symm
  · rfl

theorem foldl_stored [DecidableEq K] {f : (K → Option (Finset V)) → K → K → Option (Finset V)}
    {g : Finset V → Finset V} (hg : ∀ set, g (g set) = g set)
    (hf : ∀ m k, f m k = Function.update m k (stored (g ((m k).getD ∅)))) (sets : K → Finset V)
    (keys : List K) :
    keys.foldl f (stored ∘ sets) = stored ∘ fun k => if k ∈ keys then g (sets k) else sets k := by
  induction keys generalizing sets with
  | nil => rfl
  | cons key keys ih =>
    have hone : f (stored ∘ sets) key = stored ∘ Function.update sets key (g (sets key)) := by
      rw [hf, Function.comp_apply, stored_getD, Function.comp_update]
    rw [List.foldl_cons, hone, ih]
    congr 1
    funext k
    by_cases hk : k = key
    · simp [hk, hg]
    · simp [hk]

end Stored

end Foundation
