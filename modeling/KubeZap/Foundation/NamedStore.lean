import Mathlib.Data.List.Pairwise
import Mathlib.Logic.Function.Basic
import Mathlib.Tactic.Choose

/-! # Objects that are made once under their name

A store of named objects in which a name can be taken only while it is free, with the
list of what was made there and from which origin. Whatever else happens to the store,
a name is given once, so what has been made can be counted by names.
-/

namespace Foundation

open Function

structure NamedStore (K O M : Type) where
  held : K → Option O
  /-- The origins in the order in which objects were made from them, with the names. -/
  made : List (M × K)

namespace NamedStore

variable {K O M : Type}

def empty : NamedStore K O M := ⟨fun _ => none, []⟩

variable {built : M → K → O → Prop} {s : NamedStore K O M} {key : K} {origin : M} {obj : O}

/-- What was made is still there, as `built` says; no name was given twice. -/
structure Coherent (built : M → K → O → Prop) (s : NamedStore K O M) : Prop where
  kept : ∀ m k, (m, k) ∈ s.made → ∃ o, s.held k = some o ∧ built m k o
  once : s.made.Pairwise fun a b => a.2 ≠ b.2

theorem Coherent.empty : (empty : NamedStore K O M).Coherent built := ⟨nofun, .nil⟩

theorem Coherent.not_made (h : s.Coherent built) (hfree : s.held key = none) (m : M) :
    (m, key) ∉ s.made := by
  intro hmem
  obtain ⟨o, hheld, -⟩ := h.kept m key hmem
  rw [hfree] at hheld
  cases hheld

theorem Coherent.distinct (h : s.Coherent built) {name : M → K} {same : M → M → Prop}
    (hname : ∀ m k o, built m k o → k = name m) (hsame : ∀ m m', same m m' → name m = name m') :
    s.made.Pairwise fun a b => ¬ same a.1 b.1 := by
  refine h.once.imp_of_mem ?_
  intro a b ha hb hne heq
  obtain ⟨_, -, hbuilt⟩ := h.kept a.1 a.2 ha
  obtain ⟨_, -, hbuilt'⟩ := h.kept b.1 b.2 hb
  exact hne ((hname _ _ _ hbuilt).trans ((hsame _ _ heq).trans (hname _ _ _ hbuilt').symm))

variable [DecidableEq K]

def create (s : NamedStore K O M) (origin : M) (key : K) (obj : O) : NamedStore K O M where
  held := update s.held key (some obj)
  made := s.made ++ [(origin, key)]

def place (s : NamedStore K O M) (key : K) (obj : O) : NamedStore K O M :=
  { s with held := update s.held key (some obj) }

theorem Coherent.place (h : s.Coherent built) (hobj : ∀ m, (m, key) ∈ s.made → built m key obj) :
    (s.place key obj).Coherent built := by
  refine ⟨?_, h.once⟩
  intro m k hmem
  by_cases hk : k = key
  · subst hk
    exact ⟨obj, update_self .., hobj m hmem⟩
  · obtain ⟨o, hheld, hbuilt⟩ := h.kept m k hmem
    exact ⟨o, (update_of_ne hk ..).trans hheld, hbuilt⟩

theorem Coherent.create (h : s.Coherent built) (hfree : s.held key = none)
    (hbuilt : built origin key obj) : (s.create origin key obj).Coherent built := by
  have hother : ∀ a ∈ s.made, a.2 ≠ key := by
    rintro ⟨m, k⟩ hmem rfl
    exact h.not_made hfree m hmem
  refine ⟨?_, ?_⟩
  · intro m k hmem
    rcases List.mem_append.mp hmem with hold | hnew
    · obtain ⟨o, hheld, hb⟩ := h.kept m k hold
      exact ⟨o, (update_of_ne (hother _ hold) ..).trans hheld, hb⟩
    · cases List.mem_singleton.mp hnew
      exact ⟨obj, update_self .., hbuilt⟩
  · refine List.pairwise_append.mpr ⟨h.once, List.pairwise_singleton _ _, ?_⟩
    intro a ha b hb
    cases List.mem_singleton.mp hb
    exact hother a ha

end NamedStore

end Foundation
