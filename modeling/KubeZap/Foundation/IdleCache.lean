import Mathlib.Logic.Function.Basic
import Mathlib.Data.List.Basic

/-! # A cache whose entries expire when idle

Values are made on demand and kept under a key. A value that was last used longer
ago than `ttl` is made anew, and one whose use fails is dropped. The key decides
which value a use is given, not what the use wants: `served_right` says when that
is enough.
-/

namespace Foundation.IdleCache

open Function

structure Cache (K V : Type) where
  value : K → Option V
  lastUsed : K → Option Int

/-- What the cache is used for: `make` is the value that would be made now, and
`succeeds` tells whether a use of it does. -/
structure Usage (U K V : Type) where
  key : U → K
  checkedAt : U → Int
  createdAt : U → Int
  usedAt : U → Int
  make : U → Option V
  succeeds : U → V → Bool

variable {U K V : Type} [DecidableEq K]

namespace Cache

def empty : Cache K V := ⟨fun _ => none, fun _ => none⟩

def put (c : Cache K V) (k : K) (v : V) (t : Int) : Cache K V :=
  ⟨update c.value k (some v), update c.lastUsed k (some t)⟩

def touch (c : Cache K V) (k : K) (t : Int) : Cache K V :=
  { c with lastUsed := update c.lastUsed k (some t) }

def evict (c : Cache K V) (k : K) : Cache K V :=
  ⟨update c.value k none, update c.lastUsed k none⟩

/-- The last use is known and not longer ago than `ttl`. -/
def live (c : Cache K V) (ttl : Int) (k : K) (now : Int) : Bool :=
  match c.lastUsed k with
  | some t => now - t ≤ ttl
  | none => false

/-- The caches agree on every key but `k`. -/
def AgreeOff (k : K) (c c' : Cache K V) : Prop :=
  ∀ k', k' ≠ k → c'.value k' = c.value k' ∧ c'.lastUsed k' = c.lastUsed k'

omit [DecidableEq K] in
theorem AgreeOff.trans {k : K} {c c' c'' : Cache K V} (h : AgreeOff k c c')
    (h' : AgreeOff k c' c'') : AgreeOff k c c'' := fun k' hk =>
  ⟨(h' k' hk).1.trans (h k' hk).1, (h' k' hk).2.trans (h k' hk).2⟩

theorem agreeOff_evict (c : Cache K V) (k : K) : AgreeOff k c (c.evict k) :=
  fun k' hk => by simp [evict, hk]

end Cache

open Cache

section Uses

variable (S : Usage U K V) (ttl : Int)

def create (u : U) (c : Cache K V) : Option V × Cache K V :=
  match S.make u with
  | some v => (some v, c.put (S.key u) v (S.createdAt u))
  | none => (none, c)

def take (u : U) (c : Cache K V) : Option V × Cache K V :=
  match c.value (S.key u) with
  | some v =>
    if c.live ttl (S.key u) (S.checkedAt u) then (some v, c)
    else create S u (c.evict (S.key u))
  | none => create S u c

def use (u : U) (c : Cache K V) : Option V × Cache K V :=
  match take S ttl u c with
  | (none, c) => (none, c)
  | (some v, c) =>
    (some v, if S.succeeds u v then c.touch (S.key u) (S.usedAt u) else c.evict (S.key u))

def served (c : Cache K V) : List U → List (U × V)
  | [] => []
  | u :: us => ((use S ttl u c).1.map (u, ·)).toList ++ served (use S ttl u c).2 us

def nextUse (k : K) (us : List U) : Option U := us.find? fun u => S.key u = k

/-- What is right for a use stays right for the next use of its key, unless that comes
so late that the value is made anew. -/
def Steady (right : U → V → Prop) : List U → Prop
  | [] => True
  | u :: us =>
    (∀ u' ∈ nextUse S (S.key u) us, S.checkedAt u' - S.usedAt u ≤ ttl →
      ∀ v, right u v → right u' v) ∧ Steady right us

end Uses

variable {S : Usage U K V} {ttl : Int} {u : U} {c : Cache K V}

theorem create_agreeOff : AgreeOff (S.key u) c (create S u c).2 := by
  unfold create
  cases S.make u with
  | none => exact fun _ _ => ⟨rfl, rfl⟩
  | some v => exact fun k hk => by simp [put, hk]

theorem create_value (h : c.value (S.key u) = none) :
    (create S u c).2.value (S.key u) = (create S u c).1 ∧ (create S u c).1 = S.make u := by
  unfold create
  cases S.make u with
  | none => exact ⟨h, rfl⟩
  | some v => simp [put]

theorem take_agreeOff : AgreeOff (S.key u) c (take S ttl u c).2 := by
  unfold take
  cases c.value (S.key u) with
  | none => exact create_agreeOff
  | some v =>
    dsimp only
    split
    · exact fun _ _ => ⟨rfl, rfl⟩
    · exact (agreeOff_evict c _).trans create_agreeOff

theorem take_value :
    (take S ttl u c).2.value (S.key u) = (take S ttl u c).1 ∧
      ((take S ttl u c).1 = S.make u ∨ (take S ttl u c).1 = c.value (S.key u) ∧
        c.live ttl (S.key u) (S.checkedAt u) = true) := by
  unfold take
  cases hv : c.value (S.key u) with
  | none =>
    have hmade := create_value hv
    exact ⟨hmade.1, .inl hmade.2⟩
  | some v =>
    dsimp only
    split
    · rename_i hlive
      exact ⟨hv, .inr ⟨rfl, hlive⟩⟩
    · have hmade := @create_value _ _ _ _ S u (c.evict (S.key u)) (by simp [evict])
      exact ⟨hmade.1, .inl hmade.2⟩

theorem use_agreeOff : AgreeOff (S.key u) c (use S ttl u c).2 := by
  have htake : AgreeOff (S.key u) c (take S ttl u c).2 := take_agreeOff
  unfold use
  split
  · rename_i heq
    rw [heq] at htake
    exact htake
  · rename_i heq
    rw [heq] at htake
    dsimp only
    split
    · exact htake.trans fun k hk => by simp [touch, hk]
    · exact htake.trans (agreeOff_evict _ _)

theorem use_given : (use S ttl u c).1 = (take S ttl u c).1 := by
  unfold use
  split <;> simp_all

theorem use_kept {v : V} (h : (use S ttl u c).2.value (S.key u) = some v) :
    (use S ttl u c).1 = some v ∧ (use S ttl u c).2.lastUsed (S.key u) = some (S.usedAt u) := by
  have htake := (@take_value _ _ _ _ S ttl u c).1
  unfold use at h ⊢
  split at h
  · rename_i heq
    rw [heq] at htake
    rw [htake] at h
    cases h
  · rename_i v' c' heq
    rw [heq] at htake
    dsimp only at h ⊢
    split at h
    · rename_i hok
      rw [if_pos hok]
      exact ⟨htake.symm.trans h, by simp [touch]⟩
    · simp [evict] at h

/-- Each kept value is right for the next use of its key, if that finds it live. -/
def Prepared (S : Usage U K V) (ttl : Int) (right : U → V → Prop) (c : Cache K V) (us : List U) :
    Prop :=
  ∀ k v t, c.value k = some v → c.lastUsed k = some t →
    ∀ u ∈ nextUse S k us, S.checkedAt u - t ≤ ttl → right u v

section Runs

variable {right : U → V → Prop} {us : List U}

theorem Prepared.given (h : Prepared S ttl right c (u :: us))
    (hmake : ∀ v, S.make u = some v → right u v) {v : V} (hv : (use S ttl u c).1 = some v) :
    right u v := by
  rw [use_given] at hv
  rcases (@take_value _ _ _ _ S ttl u c).2 with hmade | ⟨hkept, hlive⟩
  · exact hmake v (hmade ▸ hv)
  · rw [hkept] at hv
    unfold live at hlive
    split at hlive
    · rename_i t ht
      exact h _ v t hv ht u (by simp [nextUse]) (by simpa using hlive)
    · cases hlive

theorem Prepared.use (h : Prepared S ttl right c (u :: us))
    (hmake : ∀ v, S.make u = some v → right u v)
    (hnext : ∀ u' ∈ nextUse S (S.key u) us, S.checkedAt u' - S.usedAt u ≤ ttl →
      ∀ v, right u v → right u' v) :
    Prepared S ttl right (use S ttl u c).2 us := by
  intro k v t hv ht u' hu' hlive
  by_cases hk : k = S.key u
  · subst hk
    obtain ⟨hgiven, hused⟩ := use_kept hv
    rw [hused] at ht
    cases ht
    exact hnext u' hu' hlive v (h.given hmake hgiven)
  · obtain ⟨hval, hlast⟩ := (use_agreeOff : AgreeOff (S.key u) c (IdleCache.use S ttl u c).2) k hk
    rw [hval] at hv
    rw [hlast] at ht
    refine h k v t hv ht u' ?_ hlive
    have hne : (decide (S.key u = k)) = false := by simp [Ne.symm hk]
    unfold nextUse
    rw [List.find?_cons, hne]
    exact hu'

theorem Prepared.served (h : Prepared S ttl right c us)
    (hmake : ∀ u ∈ us, ∀ v, S.make u = some v → right u v) (hsteady : Steady S ttl right us) :
    ∀ o ∈ served S ttl c us, right o.1 o.2 := by
  induction us generalizing c with
  | nil => nofun
  | cons u us ih =>
    obtain ⟨hmake_u, hmake⟩ := List.forall_mem_cons.mp hmake
    refine List.forall_mem_append.mpr ⟨fun o ho => ?_, ih (h.use hmake_u hsteady.1) hmake hsteady.2⟩
    obtain ⟨v, hv, rfl⟩ := Option.map_eq_some_iff.mp (Option.mem_toList.mp ho)
    exact h.given hmake_u hv

end Runs

/-- Starting empty, every use is given what is right for it, if what is made for it
is and the uses of a key are steady. -/
theorem served_right {right : U → V → Prop} {us : List U}
    (hmake : ∀ u ∈ us, ∀ v, S.make u = some v → right u v) (hsteady : Steady S ttl right us) :
    ∀ o ∈ served S ttl Cache.empty us, right o.1 o.2 :=
  Prepared.served nofun hmake hsteady

end Foundation.IdleCache
