import Mathlib.Logic.Function.Basic
import Mathlib.Data.List.Basic

/-! # Objects under optimistic concurrency

A server keeps, under each key, at most one object. Every stored object carries
the version it was stored under, and a write is accepted only when the version
it was computed from is still the stored one. An object has a main part and a
status part, written separately. Old versions stay readable: a cache may serve
any of them. The central fact is `Store.WF.pins`: nothing else is, or will be, stored
under the version of an object, so a reader whose version is the stored one has read
the stored object itself.
-/

namespace Foundation.Versioned

open Function

structure Kind (Key Obj : Type) where
  key : Obj → Key
  version : Obj → Nat
  withVersion : Nat → Obj → Obj
  /-- The outcome of a write to the main part: stored object, sent object. -/
  mergeMain : Obj → Obj → Obj
  /-- The outcome of a write to the status part: stored object, sent object. -/
  mergeStatus : Obj → Obj → Obj
  /-- Deletion was requested and nothing holds the object back. -/
  released : Obj → Bool
  version_withVersion : ∀ n o, version (withVersion n o) = n
  key_withVersion : ∀ n o, key (withVersion n o) = key o
  released_withVersion : ∀ n o, released (withVersion n o) = released o
  key_mergeMain : ∀ c o, key (mergeMain c o) = key c
  key_mergeStatus : ∀ c o, key (mergeStatus c o) = key c
  released_mergeStatus : ∀ c o, released (mergeStatus c o) = released c

inductive WriteError
  | notFound
  | conflict
  | unavailable
deriving DecidableEq

structure Store (Key Obj : Type) where
  current : Key → Option Obj
  versions : List Obj
  next : Nat

namespace Store

variable {Key Obj : Type} [DecidableEq Key] [DecidableEq Obj] (K : Kind Key Obj)

/-- Store `new` in the place of `stored`. Content equal to the stored one is not
written again and keeps its version. -/
def commit (s : Store Key Obj) (stored new : Obj) : Store Key Obj × Obj :=
  if K.withVersion (K.version stored) new = stored then (s, stored)
  else
    let o := K.withVersion s.next new
    if K.released o then
      ({ s with current := update s.current (K.key stored) none, next := s.next + 1 }, o)
    else
      ({ current := update s.current (K.key stored) (some o)
         versions := o :: s.versions
         next := s.next + 1 }, o)

def write (merge : Obj → Obj → Obj) (s : Store Key Obj) (sent : Obj) :
    Except WriteError Obj × Store Key Obj :=
  match s.current (K.key sent) with
  | none => (.error .notFound, s)
  | some stored =>
    if K.version sent = K.version stored then
      let done := s.commit K stored (merge stored sent)
      (.ok done.2, done.1)
    else (.error .conflict, s)

/-- Versions identify contents, and only unreleased objects are stored. -/
structure WF (s : Store Key Obj) : Prop where
  known : ∀ k o, s.current k = some o → o ∈ s.versions ∧ K.key o = k ∧ K.released o = false
  below : ∀ o ∈ s.versions, K.version o < s.next
  unique : ∀ o ∈ s.versions, ∀ o' ∈ s.versions, K.version o = K.version o' → o = o'

variable {K}

theorem commit_cases (s : Store Key Obj) (stored new : Obj) :
    (K.withVersion (K.version stored) new = stored ∧ s.commit K stored new = (s, stored)) ∨
    (K.released new = true ∧ s.commit K stored new =
      ({ s with current := update s.current (K.key stored) none, next := s.next + 1 },
        K.withVersion s.next new)) ∨
    (K.released new = false ∧ s.commit K stored new =
      ({ current := update s.current (K.key stored) (some (K.withVersion s.next new))
         versions := K.withVersion s.next new :: s.versions
         next := s.next + 1 }, K.withVersion s.next new)) := by
  unfold commit
  by_cases hsame : K.withVersion (K.version stored) new = stored
  · exact .inl ⟨hsame, if_pos hsame⟩
  · rw [if_neg hsame]
    cases hr : K.released new with
    | true => exact .inr (.inl ⟨rfl, by simp [K.released_withVersion, hr]⟩)
    | false => exact .inr (.inr ⟨rfl, by simp [K.released_withVersion, hr]⟩)

variable {s : Store Key Obj} {stored : Obj}

theorem mem_versions_commit {new o : Obj} (ho : o ∈ (s.commit K stored new).1.versions) :
    o ∈ s.versions ∨ ∃ n, o = K.withVersion n new := by
  rcases commit_cases (K := K) s stored new with ⟨_, hc⟩ | ⟨_, hc⟩ | ⟨_, hc⟩
  · rw [hc] at ho
    exact .inl ho
  · rw [hc] at ho
    exact .inl ho
  · rw [hc] at ho
    rcases List.mem_cons.mp ho with rfl | ho
    · exact .inr ⟨s.next, rfl⟩
    · exact .inl ho

theorem commit_other (s : Store Key Obj) (stored new : Obj) {k : Key}
    (hk : k ≠ K.key stored) : (s.commit K stored new).1.current k = s.current k := by
  rcases commit_cases (K := K) s stored new with ⟨_, h⟩ | ⟨_, h⟩ | ⟨_, h⟩ <;> simp [h, hk]

theorem commit_answer (s : Store Key Obj) (stored new : Obj) :
    ∃ n, (s.commit K stored new).2 = K.withVersion n new := by
  rcases commit_cases (K := K) s stored new with ⟨hsame, hc⟩ | ⟨_, hc⟩ | ⟨_, hc⟩
  · exact ⟨K.version stored, by rw [hc, hsame]⟩
  · exact ⟨s.next, by rw [hc]⟩
  · exact ⟨s.next, by rw [hc]⟩

theorem commit_current (new : Obj) (hstored : s.current (K.key stored) = some stored) :
    (s.commit K stored new).1.current (K.key stored) = some (s.commit K stored new).2 ∨
      K.released new = true ∧ (s.commit K stored new).1.current (K.key stored) = none := by
  rcases commit_cases (K := K) s stored new with ⟨_, hc⟩ | ⟨hr, hc⟩ | ⟨_, hc⟩
  · exact .inl (by rw [hc]; exact hstored)
  · exact .inr ⟨hr, by rw [hc]; simp⟩
  · exact .inl (by rw [hc]; simp)

theorem current_commit {new o : Obj} {k : Key} (hstored : s.current (K.key stored) = some stored)
    (h : (s.commit K stored new).1.current k = some o) :
    (k = K.key stored ∧ ∃ n, o = K.withVersion n new) ∨
      (k ≠ K.key stored ∧ s.current k = some o) := by
  by_cases hk : k = K.key stored
  · subst hk
    obtain ⟨n, hn⟩ := commit_answer (K := K) s stored new
    rcases @commit_current _ _ _ _ K s stored new hstored with hc | ⟨_, hc⟩
    · rw [hc] at h
      exact .inl ⟨rfl, n, by rw [← Option.some.inj h, hn]⟩
    · rw [hc] at h
      cases h
  · rw [commit_other s stored new hk] at h
    exact .inr ⟨hk, h⟩

/-- The versions after a commit: those before, and one more at most, which is then stored. -/
theorem versions_commit (s : Store Key Obj) (stored new : Obj) :
    (s.commit K stored new).1.versions = s.versions ∨ ∃ o, K.key o = K.key new ∧
      (s.commit K stored new).1.versions = o :: s.versions ∧
      (s.commit K stored new).1.current (K.key stored) = some o := by
  rcases commit_cases (K := K) s stored new with ⟨_, hc⟩ | ⟨_, hc⟩ | ⟨_, hc⟩
  · exact .inl (by rw [hc])
  · exact .inl (by rw [hc])
  · exact .inr ⟨_, K.key_withVersion s.next new, by simp [hc], by simp [hc]⟩

theorem WF.commit (h : s.WF K) {new : Obj}
    (hkey : K.key new = K.key stored) : (s.commit K stored new).1.WF K := by
  rcases commit_cases (K := K) s stored new with ⟨_, hc⟩ | ⟨hr, hc⟩ | ⟨hr, hc⟩
  · rw [hc]; exact h
  · rw [hc]
    refine ⟨?_, fun o ho => Nat.lt_succ_of_lt (h.below o ho), h.unique⟩
    intro k o ho
    by_cases hk : k = K.key stored
    · subst hk; simp at ho
    · exact h.known k o (by simpa [hk] using ho)
  · rw [hc]
    have hnew : ∀ o ∈ s.versions, K.version o ≠ s.next := fun o ho => Nat.ne_of_lt (h.below o ho)
    refine ⟨?_, ?_, ?_⟩
    · intro k o ho
      by_cases hk : k = K.key stored
      · subst hk
        have heq : K.withVersion s.next new = o := by simpa using ho
        subst heq
        exact ⟨by simp, by rw [K.key_withVersion, hkey], by rw [K.released_withVersion, hr]⟩
      · obtain ⟨hm, hrest⟩ := h.known k o (by simpa [hk] using ho)
        exact ⟨List.mem_cons_of_mem _ hm, hrest⟩
    · intro o ho
      rcases List.mem_cons.mp ho with rfl | ho
      · simp [K.version_withVersion]
      · exact Nat.lt_succ_of_lt (h.below o ho)
    · intro o ho o' ho' hv
      rcases List.mem_cons.mp ho with rfl | ho <;> rcases List.mem_cons.mp ho' with rfl | ho'
      · rfl
      · rw [K.version_withVersion] at hv
        exact absurd hv.symm (hnew o' ho')
      · rw [K.version_withVersion] at hv
        exact absurd hv (hnew o ho)
      · exact h.unique o ho o' ho' hv

/-- Nothing but `o` is, or will be, stored under the version of `o`. -/
def Pins (K : Kind Key Obj) (s : Store Key Obj) (o : Obj) : Prop :=
  K.version o < s.next ∧ ∀ o' ∈ s.versions, K.version o' = K.version o → o' = o

omit [DecidableEq Key] [DecidableEq Obj] in
theorem WF.pins (h : s.WF K) {o : Obj} (ho : o ∈ s.versions) : s.Pins K o :=
  ⟨h.below o ho, fun o' ho' hv => h.unique o' ho' o ho hv⟩

theorem Pins.commit {o : Obj} (h : s.Pins K o) (stored new : Obj) :
    (s.commit K stored new).1.Pins K o := by
  rcases commit_cases (K := K) s stored new with ⟨_, hc⟩ | ⟨_, hc⟩ | ⟨_, hc⟩
  · rw [hc]; exact h
  · rw [hc]; exact ⟨Nat.lt_succ_of_lt h.1, h.2⟩
  · rw [hc]
    refine ⟨Nat.lt_succ_of_lt h.1, fun o' ho' hv => ?_⟩
    rcases List.mem_cons.mp ho' with rfl | ho'
    · rw [K.version_withVersion] at hv
      exact absurd hv (Nat.ne_of_gt h.1)
    · exact h.2 o' ho' hv

theorem WF.pins_commit (h : s.WF K) {new : Obj} (hstored : s.current (K.key stored) = some stored) :
    (s.commit K stored new).1.Pins K (s.commit K stored new).2 := by
  rcases commit_cases (K := K) s stored new with ⟨_, hc⟩ | ⟨_, hc⟩ | ⟨_, hc⟩
  · rw [hc]; exact h.pins (h.known _ _ hstored).1
  · rw [hc]
    refine ⟨by simp [K.version_withVersion], fun o' ho' hv => ?_⟩
    rw [K.version_withVersion] at hv
    exact absurd hv (Nat.ne_of_lt (h.below o' ho'))
  · rw [hc]
    refine ⟨by simp [K.version_withVersion], fun o' ho' hv => ?_⟩
    rcases List.mem_cons.mp ho' with rfl | ho'
    · rfl
    · rw [K.version_withVersion] at hv
      exact absurd hv (Nat.ne_of_lt (h.below o' ho'))

theorem write_ok {merge : Obj → Obj → Obj} {s' : Store Key Obj} {sent o : Obj}
    (h : s.write K merge sent = (.ok o, s')) :
    ∃ stored, s.current (K.key sent) = some stored ∧ K.version sent = K.version stored ∧
      s' = (s.commit K stored (merge stored sent)).1 ∧
      o = (s.commit K stored (merge stored sent)).2 := by
  unfold write at h
  cases hc : s.current (K.key sent) with
  | none => simp [hc] at h
  | some stored =>
    simp only [hc] at h
    split at h
    next hv =>
      obtain ⟨ho, hs⟩ := Prod.mk.inj h
      exact ⟨stored, rfl, hv, hs.symm, (Except.ok.inj ho).symm⟩
    next => simp at h

theorem write_error {merge : Obj → Obj → Obj} {s' : Store Key Obj} {sent : Obj} {e : WriteError}
    (h : s.write K merge sent = (.error e, s')) : s' = s := by
  unfold write at h
  cases hc : s.current (K.key sent) with
  | none => simp only [hc] at h; exact (Prod.mk.inj h).2.symm
  | some stored =>
    simp only [hc] at h
    split at h
    · simp at h
    · exact (Prod.mk.inj h).2.symm

end Store

end Foundation.Versioned
