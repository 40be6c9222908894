import Mathlib.Data.List.Basic

/-! # Bracketed tokens in a text

A text is cut into literal symbols and tokens. A token opens with a fixed pair of
symbols and ends at the next closing symbol, whatever stands between them; an
opening pair that is never closed is literal text. `scan` reads each symbol once,
from left to right. `index` is the search for the first occurrence of a pattern,
and the lemmas below say how far one search advances a scan.
-/

namespace Foundation.Scan

variable {α : Type} [DecidableEq α]

/-- The position of the first occurrence of `sub` in `s`. -/
def index (s sub : List α) : Option Nat :=
  if sub.isPrefixOf s then some 0
  else
    match s with
    | [] => none
    | _ :: rest => (index rest sub).map (· + 1)

inductive Segment (α : Type)
  | lit (x : α)
  | token (t : List α)

variable (a b c : α)

/-- Cut a text into segments. Inside a token the scan carries the symbols read
since the opening pair, newest first. -/
def scan : Option (List α) → List α → List (Segment α)
  | none, [] => []
  | none, [x] => [.lit x]
  | none, x :: y :: rest =>
    if x = a ∧ y = b then scan (some []) rest else .lit x :: scan none (y :: rest)
  | some acc, [] => (a :: b :: acc.reverse).map .lit
  | some acc, x :: rest =>
    if x = c then .token acc.reverse :: scan none rest else scan (some (x :: acc)) rest

variable {a b c}

theorem index_nil {x : α} {sub : List α} : index [] (x :: sub) = none := by
  simp [index, List.isPrefixOf]

theorem index_cons (x : α) (rest sub : List α) :
    index (x :: rest) sub =
      if sub.isPrefixOf (x :: rest) then some 0 else (index rest sub).map (· + 1) := by
  rw [index]

theorem drop_of_index {s sub : List α} {i : Nat} (h : index s sub = some i) :
    s.drop i = sub ++ s.drop (i + sub.length) := by
  fun_induction index s sub generalizing i with
  | case1 s hpre =>
    cases h
    simpa using (List.prefix_iff_eq_append.mp (List.isPrefixOf_iff_prefix.mp hpre)).symm
  | case2 => cases h
  | case3 x rest hpre ih =>
    obtain ⟨j, hj, rfl⟩ := Option.map_eq_some_iff.mp h
    rw [Nat.add_right_comm]
    exact ih hj

theorem index_lt_length {s sub : List α} {i : Nat} (hsub : sub ≠ [])
    (h : index s sub = some i) : i < s.length := by
  by_contra hle
  have hnil := drop_of_index h
  rw [List.drop_eq_nil_of_le (Nat.le_of_not_lt hle)] at hnil
  exact hsub (List.append_eq_nil_iff.mp hnil.symm).1

theorem index_singleton_cons (x y : α) (rest : List α) :
    index (x :: rest) [y] = if x = y then some 0 else (index rest [y]).map (· + 1) := by
  rw [index_cons]
  by_cases h : x = y
  · simp [List.isPrefixOf, h]
  · have h' : ¬ y = x := fun e => h e.symm
    simp [List.isPrefixOf, h, h']

private theorem isPrefixOf_pair (x y : α) (rest : List α) :
    [a, b].isPrefixOf (x :: y :: rest) = true ↔ x = a ∧ y = b := by
  simp only [List.isPrefixOf, Bool.and_true, Bool.and_eq_true, beq_iff_eq]
  exact and_congr eq_comm eq_comm

theorem scan_of_index_none {s : List α} (h : index s [a, b] = none) :
    scan a b c none s = s.map .lit := by
  induction s with
  | nil => rfl
  | cons x rest ih =>
    rw [index_cons] at h
    split at h
    · cases h
    · rename_i hpre
      have hrest : index rest [a, b] = none := by simpa using h
      cases rest with
      | nil => rfl
      | cons y rest =>
        rw [isPrefixOf_pair] at hpre
        rw [scan, if_neg hpre, ih hrest]
        rfl

theorem scan_of_index_some {s : List α} {i : Nat} (h : index s [a, b] = some i) :
    scan a b c none s = (s.take i).map .lit ++ scan a b c (some []) (s.drop (i + 2)) := by
  induction s generalizing i with
  | nil => simp [index_nil] at h
  | cons x rest ih =>
    rw [index_cons] at h
    cases rest with
    | nil => simp [List.isPrefixOf, index_nil] at h
    | cons y rest =>
      split at h
      · rename_i hpre
        rw [isPrefixOf_pair] at hpre
        cases h
        rw [scan, if_pos hpre]
        rfl
      · rename_i hpre
        rw [isPrefixOf_pair] at hpre
        obtain ⟨j, hj, rfl⟩ := Option.map_eq_some_iff.mp h
        rw [scan, if_neg hpre, ih hj]
        rfl

theorem split_of_index_singleton {s : List α} {j : Nat} (h : index s [c] = some j) :
    s = s.take j ++ c :: s.drop (j + 1) := by
  conv_lhs => rw [← List.take_append_drop j s, drop_of_index h]
  rfl

theorem not_mem_take_of_index_singleton {s : List α} {j : Nat} (h : index s [c] = some j) :
    c ∉ s.take j := by
  induction s generalizing j with
  | nil => simp
  | cons x rest ih =>
    rw [index_singleton_cons] at h
    split at h
    · cases h
      simp
    · rename_i hx
      obtain ⟨i, hi, rfl⟩ := Option.map_eq_some_iff.mp h
      rw [List.take_succ_cons, List.mem_cons, not_or]
      exact ⟨fun e => hx e.symm, ih hi⟩

theorem index_append_singleton {s rest : List α} (h : c ∉ s) :
    index (s ++ c :: rest) [c] = some s.length := by
  induction s with
  | nil => simp [index_singleton_cons]
  | cons x s ih =>
    rw [List.mem_cons, not_or] at h
    rw [List.cons_append, index_singleton_cons, if_neg fun e => h.1 e.symm, ih h.2]
    rfl

theorem append_cons_inj {s rest s' rest' : List α} (hs : c ∉ s) (hs' : c ∉ s')
    (h : s ++ c :: rest = s' ++ c :: rest') : s = s' ∧ rest = rest' := by
  have hindex := congrArg (index · [c]) h
  simp only [index_append_singleton hs, index_append_singleton hs', Option.some.injEq] at hindex
  obtain ⟨hfront, hback⟩ := List.append_inj h hindex
  exact ⟨hfront, (List.cons.inj hback).2⟩

theorem take_succ_of_index_singleton {s : List α} {j : Nat} (h : index s [c] = some j) :
    s.take (j + 1) = s.take j ++ [c] := by
  rw [List.take_add, drop_of_index h]
  rfl

theorem scan_unclosed {s acc : List α} (h : index s [c] = none) :
    scan a b c (some acc) s = (a :: b :: acc.reverse ++ s).map .lit := by
  induction s generalizing acc with
  | nil => simp [scan]
  | cons x rest ih =>
    rw [index_singleton_cons] at h
    split at h
    · cases h
    · rename_i hx
      rw [scan, if_neg hx, ih (by simpa using h)]
      simp

theorem scan_closed {s acc : List α} {j : Nat} (h : index s [c] = some j) :
    scan a b c (some acc) s =
      .token (acc.reverse ++ s.take j) :: scan a b c none (s.drop (j + 1)) := by
  induction s generalizing acc j with
  | nil => simp [index_nil] at h
  | cons x rest ih =>
    rw [index_singleton_cons] at h
    split at h
    · rename_i hx
      cases h
      rw [scan, if_pos hx]
      simp
    · rename_i hx
      obtain ⟨i, hi, rfl⟩ := Option.map_eq_some_iff.mp h
      rw [scan, if_neg hx, ih hi]
      simp

end Foundation.Scan
