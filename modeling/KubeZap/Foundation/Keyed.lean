import Mathlib.Data.List.Nodup

/-! # Lists looked up by key

A list whose elements carry a key, searched from the front and updated in place:
the first element with the key is replaced, and a new key goes to the end. Seen
through `find` such a list is a finite map, whatever duplicates it holds.
-/

namespace Foundation.Keyed

variable {α κ : Type} [DecidableEq κ] (key : α → κ)

def find (xs : List α) (k : κ) : Option α := xs.find? (fun x => key x == k)

/-- Replace the first element with the key of `a`, or append `a`. -/
def upsert : List α → α → List α
  | [], a => [a]
  | x :: xs, a => if key x = key a then a :: xs else x :: upsert xs a

variable {key}

@[simp] theorem find_nil (k : κ) : find key [] k = none := rfl

theorem find_cons (x : α) (xs : List α) (k : κ) :
    find key (x :: xs) k = if key x = k then some x else find key xs k := by
  by_cases h : key x = k <;> simp [find, h]

variable {xs : List α} {a : α}

theorem key_of_find {k : κ} (h : find key xs k = some a) : key a = k := by
  simpa using List.find?_some h

theorem mem_of_find {k : κ} (h : find key xs k = some a) : a ∈ xs :=
  List.mem_of_find?_eq_some h

theorem find_upsert (xs : List α) (a : α) (k : κ) :
    find key (upsert key xs a) k = if key a = k then some a else find key xs k := by
  induction xs with
  | nil => simp [upsert, find_cons]
  | cons x xs ih =>
    unfold upsert
    by_cases hx : key x = key a
    · rw [if_pos hx, find_cons, find_cons, hx]
      by_cases ha : key a = k <;> simp [ha]
    · rw [if_neg hx, find_cons, find_cons, ih]
      by_cases hk : key x = k
      · have hne : key a ≠ k := fun h => hx (hk.trans h.symm)
        simp [hk, hne]
      · simp [hk]

@[simp] theorem find_upsert_self (xs : List α) (a : α) :
    find key (upsert key xs a) (key a) = some a := by
  simp [find_upsert]

theorem map_key_upsert (xs : List α) (a : α) :
    (upsert key xs a).map key =
      if key a ∈ xs.map key then xs.map key else xs.map key ++ [key a] := by
  induction xs with
  | nil => simp [upsert]
  | cons x xs ih =>
    unfold upsert
    by_cases hx : key x = key a
    · simp [hx]
    · have hne : key a ≠ key x := fun h => hx h.symm
      rw [if_neg hx, List.map_cons, ih]
      by_cases hm : key a ∈ xs.map key
      · simp [hm]
      · simp [hm, hne]

theorem nodup_upsert (a : α) (h : (xs.map key).Nodup) : ((upsert key xs a).map key).Nodup := by
  rw [map_key_upsert]
  by_cases hm : key a ∈ xs.map key
  · rwa [if_pos hm]
  · rw [if_neg hm, ← List.concat_eq_append]
    exact h.concat hm

theorem mem_upsert {x : α} (h : x ∈ upsert key xs a) : x = a ∨ x ∈ xs := by
  induction xs with
  | nil => exact .inl (by simpa [upsert] using h)
  | cons y ys ih =>
    unfold upsert at h
    split at h
    · rcases List.mem_cons.mp h with rfl | h
      · exact .inl rfl
      · exact .inr (List.mem_cons_of_mem _ h)
    · rcases List.mem_cons.mp h with rfl | h
      · exact .inr List.mem_cons_self
      · exact (ih h).imp_right (List.mem_cons_of_mem _)

theorem getElem?_upsert {x : α} {i : Nat} (h : xs[i]? = some x) :
    (upsert key xs a)[i]? = some x ∨
      key x = key a ∧ (∀ j < i, ∀ y, xs[j]? = some y → key y ≠ key a) ∧
        (upsert key xs a)[i]? = some a := by
  induction xs generalizing i with
  | nil => simp at h
  | cons y ys ih =>
    unfold upsert
    by_cases hk : key y = key a
    · rw [if_pos hk]
      cases i with
      | zero =>
        have hy : y = x := by simpa using h
        exact .inr ⟨hy ▸ hk, fun j hj => absurd hj (Nat.not_lt_zero j), rfl⟩
      | succ i => exact .inl (by simpa using h)
    · rw [if_neg hk]
      cases i with
      | zero => exact .inl (by simpa using h)
      | succ i =>
        rcases ih (by simpa using h) with hsame | ⟨hx, hmin, hnew⟩
        · exact .inl (by simpa using hsame)
        · refine .inr ⟨hx, fun j hj z hz => ?_, by simpa using hnew⟩
          cases j with
          | zero =>
            have hyz : y = z := by simpa using hz
            exact hyz ▸ hk
          | succ j => exact hmin j (Nat.lt_of_succ_lt_succ hj) z (by simpa using hz)

theorem find_eq_some_iff {k : κ} :
    find key xs k = some a ↔
      key a = k ∧ ∃ i : Nat, xs[i]? = some a ∧ ∀ j < i, ∀ x, xs[j]? = some x → key x ≠ k := by
  rw [find, List.find?_eq_some_iff_getElem]
  constructor
  · rintro ⟨ha, i, hi, rfl, hmin⟩
    refine ⟨by simpa using ha, i, List.getElem?_eq_getElem hi, fun j hj x hx => ?_⟩
    obtain ⟨_, rfl⟩ := List.getElem?_eq_some_iff.mp hx
    simpa using hmin j hj
  · rintro ⟨ha, i, hi, hmin⟩
    obtain ⟨hlt, hget⟩ := List.getElem?_eq_some_iff.mp hi
    refine ⟨by simpa using ha, i, hlt, hget, fun j hj => ?_⟩
    simpa using hmin j hj _ (List.getElem?_eq_getElem (Nat.lt_trans hj hlt))

theorem find_of_mem (hnd : (xs.map key).Nodup) (ha : a ∈ xs) : find key xs (key a) = some a := by
  obtain ⟨b, hb⟩ : ∃ b, find key xs (key a) = some b :=
    Option.isSome_iff_exists.mp (List.find?_isSome.mpr ⟨a, ha, beq_self_eq_true _⟩)
  rw [hb, List.inj_on_of_nodup_map hnd (mem_of_find hb) ha (key_of_find hb)]

theorem find_perm {ys : List α} (h : xs.Perm ys) (hnd : (xs.map key).Nodup) (k : κ) :
    find key xs k = find key ys k := by
  cases hx : find key xs k with
  | some a =>
    have hnd' : (ys.map key).Nodup := (h.map key).nodup_iff.mp hnd
    rw [← key_of_find hx]
    exact (find_of_mem hnd' (h.mem_iff.mp (mem_of_find hx))).symm
  | none =>
    have hnone := List.find?_eq_none.mp hx
    exact (List.find?_eq_none.mpr fun a ha => hnone a (h.mem_iff.mpr ha)).symm

theorem find_filter_ne (xs : List α) (k' k : κ) :
    find key (xs.filter (key · ≠ k')) k = if k' = k then none else find key xs k := by
  rw [find, List.find?_filter]
  split
  next hk => simp [hk]
  next hk =>
    refine congrArg (List.find? · xs) (funext fun x => ?_)
    by_cases hx : key x = k
    · simp [hx, Ne.symm hk]
    · simp [hx]

theorem find_map {f : α → α} (hf : ∀ x, key (f x) = key x) (k : κ) :
    find key (xs.map f) k = (find key xs k).map f := by
  simp only [find, List.find?_map, Function.comp_def, hf]

theorem find_foldl_upsert {k : κ} (as : List α) (hk : k ∉ as.map key) :
    find key (as.foldl (upsert key) xs) k = find key xs k := by
  induction as generalizing xs with
  | nil => rfl
  | cons a as ih =>
    rw [List.map_cons, List.mem_cons, not_or] at hk
    rw [List.foldl_cons, ih hk.2, find_upsert, if_neg (Ne.symm hk.1)]

theorem exists_find_foldl_upsert {as : List α} {k : κ} (hk : k ∈ as.map key) :
    ∃ a ∈ as, find key (as.foldl (upsert key) xs) k = some a := by
  induction as generalizing xs with
  | nil => simp at hk
  | cons b as ih =>
    rw [List.foldl_cons]
    by_cases hlater : k ∈ as.map key
    · obtain ⟨a, ha, hfind⟩ := @ih (upsert key xs b) hlater
      exact ⟨a, List.mem_cons_of_mem _ ha, hfind⟩
    · have hb : key b = k := by
        rcases List.mem_cons.mp (by simpa using hk : k ∈ key b :: as.map key) with h | h
        · exact h.symm
        · exact absurd h hlater
      refine ⟨b, List.mem_cons_self, ?_⟩
      rw [find_foldl_upsert as hlater, ← hb, find_upsert_self]

end Foundation.Keyed
