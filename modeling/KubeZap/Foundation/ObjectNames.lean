import Mathlib.Algebra.Group.Int.Defs
import Mathlib.Algebra.Group.Nat.Defs
import Mathlib.Data.List.DropRight

/-! # Names of objects and values of labels

What a Kubernetes API server accepts as the name of an object (a DNS-1123 subdomain) and as the
value of a label.
-/

namespace Foundation

def LowerAlnum (c : Char) : Prop := ('a' ≤ c ∧ c ≤ 'z') ∨ ('0' ≤ c ∧ c ≤ '9')

instance (c : Char) : Decidable (LowerAlnum c) := inferInstanceAs (Decidable (_ ∨ _))

def LabelRune (c : Char) : Prop := LowerAlnum c ∨ c = '-'

instance (c : Char) : Decidable (LabelRune c) := inferInstanceAs (Decidable (_ ∨ _))

namespace Subdomain

inductive Place
  /-- a label has to begin -/
  | start
  /-- after a letter or digit -/
  | inside
  /-- after a dash -/
  | dash
deriving DecidableEq

def Place.next (p : Place) (c : Char) : Option Place :=
  if LowerAlnum c then some .inside
  else if c = '-' ∧ p ≠ .start then some .dash
  else if c = '.' ∧ p = .inside then some .start
  else none

def read (p : Place) (cs : List Char) : Option Place := cs.foldlM Place.next p

end Subdomain

open Subdomain

/-- At most 253 characters of
`[a-z0-9]([-a-z0-9]*[a-z0-9])?(\.[a-z0-9]([-a-z0-9]*[a-z0-9])?)*`. -/
def IsSubdomain (s : String) : Prop :=
  s.toList.length ≤ 253 ∧ read .start s.toList = some .inside

instance (s : String) : Decidable (IsSubdomain s) := inferInstanceAs (Decidable (_ ∧ _))

namespace Subdomain

variable {p q : Place} {c : Char} {cs ds : List Char}

@[simp] theorem read_nil : read p [] = some p := rfl

theorem read_cons : read p (c :: cs) = (p.next c).bind fun q => read q cs := rfl

theorem read_append : read p (cs ++ ds) = (read p cs).bind fun q => read q ds :=
  List.foldlM_append

theorem next_lowerAlnum (h : LowerAlnum c) : p.next c = some .inside := if_pos h

theorem next_cases (h : p.next c = some q) :
    (LowerAlnum c ∧ q = .inside) ∨ (c = '-' ∧ q = .dash) ∨ (c = '.' ∧ q = .start) := by
  unfold Place.next at h
  split at h
  · rename_i hc
    exact .inl ⟨hc, (Option.some.inj h).symm⟩
  · split at h
    · rename_i hc
      exact .inr (.inl ⟨hc.1, (Option.some.inj h).symm⟩)
    · split at h
      · rename_i hc
        exact .inr (.inr ⟨hc.1, (Option.some.inj h).symm⟩)
      · cases h

theorem read_labelRunes (hp : p ≠ .start) (h : ∀ c ∈ cs, LabelRune c) :
    ∃ q, q ≠ .start ∧ read p cs = some q := by
  induction cs generalizing p with
  | nil => exact ⟨p, hp, rfl⟩
  | cons c cs ih =>
    have hrest : ∀ d ∈ cs, LabelRune d := fun d hd => h d (List.mem_cons_of_mem c hd)
    have hnext : ∃ q, q ≠ .start ∧ p.next c = some q := by
      by_cases hc : LowerAlnum c
      · exact ⟨.inside, by decide, if_pos hc⟩
      · have hdash : c = '-' := (h c List.mem_cons_self).resolve_left hc
        refine ⟨.dash, by decide, ?_⟩
        rw [Place.next, if_neg hc, if_pos ⟨hdash, hp⟩]
    obtain ⟨q, hq, hpq⟩ := hnext
    obtain ⟨r, hr, hqr⟩ := ih hq hrest
    refine ⟨r, hr, ?_⟩
    rw [read_cons, hpq, Option.bind_some, hqr]

end Subdomain

structure LabelTail (cs : List Char) : Prop where
  runes : ∀ c ∈ cs, LabelRune c
  last : ∃ c, cs.getLast? = some c ∧ LowerAlnum c

namespace LabelTail

variable {p : Place} {c : Char} {cs ds : List Char}

theorem append (h : ∀ c ∈ cs, LabelRune c) (ht : LabelTail ds) : LabelTail (cs ++ ds) := by
  obtain ⟨c, hlast, hc⟩ := ht.last
  refine ⟨fun d hd => ?_, c, ?_, hc⟩
  · rcases List.mem_append.mp hd with hd | hd
    · exact h d hd
    · exact ht.runes d hd
  · rw [List.getLast?_append, hlast, Option.some_or]

theorem read (ht : LabelTail cs) (hp : p ≠ .start) : Subdomain.read p cs = some .inside := by
  obtain ⟨c, hlast, hc⟩ := ht.last
  obtain ⟨init, rfl⟩ := List.getLast?_eq_some_iff.mp hlast
  have hinit : ∀ d ∈ init, LabelRune d := fun d hd => ht.runes d (List.mem_append_left _ hd)
  obtain ⟨q, -, hq⟩ := read_labelRunes hp hinit
  rw [read_append, hq, Option.bind_some, read_cons, next_lowerAlnum hc, Option.bind_some, read_nil]

end LabelTail

theorem IsSubdomain.append {s t : String} (hs : IsSubdomain s) (ht : LabelTail t.toList)
    (hlength : s.toList.length + t.toList.length ≤ 253) : IsSubdomain (s ++ t) := by
  refine ⟨?_, ?_⟩
  · rw [String.toList_append, List.length_append]
    exact hlength
  · rw [String.toList_append, read_append, hs.2, Option.bind_some, ht.read (by decide)]

theorem isSubdomain_of_runes {s : String} {c : Char} (hlength : s.toList.length ≤ 253)
    (hrunes : ∀ d ∈ s.toList, LabelRune d) (hhead : s.toList.head? = some c) (hc : LowerAlnum c)
    (hlast : s.toList.getLast? ≠ some '-') : IsSubdomain s := by
  refine ⟨hlength, ?_⟩
  obtain ⟨cs, hcs⟩ := List.head?_eq_some_iff.mp hhead
  have hne : s.toList ≠ [] := by simp [hcs]
  have htail : LabelTail s.toList := by
    refine ⟨hrunes, s.toList.getLast hne, List.getLast?_eq_getLast_of_ne_nil hne, ?_⟩
    refine (hrunes _ (List.getLast_mem hne)).resolve_right fun hdash => hlast ?_
    rw [List.getLast?_eq_getLast_of_ne_nil hne, hdash]
  -- the first character leads where it would from inside a label
  have hread : read .start s.toList = read .inside s.toList := by
    rw [hcs, read_cons, read_cons, next_lowerAlnum hc, next_lowerAlnum hc]
  rw [hread, htail.read (by decide)]

theorem IsSubdomain.head {s : String} (hs : IsSubdomain s) :
    ∃ c, s.toList.head? = some c ∧ LowerAlnum c := by
  have hread := hs.2
  cases hcs : s.toList with
  | nil =>
    rw [hcs] at hread
    cases hread
  | cons c cs =>
    rw [hcs, read_cons] at hread
    obtain ⟨q, hq, -⟩ := Option.bind_eq_some_iff.mp hread
    refine ⟨c, rfl, ?_⟩
    by_contra hc
    simp [Place.next, hc] at hq

def Alnum (c : Char) : Prop := LowerAlnum c ∨ ('A' ≤ c ∧ c ≤ 'Z')

/-- At most 63 characters of `(([A-Za-z0-9][-A-Za-z0-9_.]*)?[A-Za-z0-9])?`. -/
structure IsLabelValue (s : String) : Prop where
  length : s.toList.length ≤ 63
  runes : ∀ c ∈ s.toList, Alnum c ∨ c = '-' ∨ c = '_' ∨ c = '.'
  head : ∀ c, s.toList.head? = some c → Alnum c
  last : ∀ c, s.toList.getLast? = some c → Alnum c

namespace Subdomain

variable {p q : Place} {cs : List Char}

theorem runes_of_read (h : read p cs = some q) : ∀ c ∈ cs, LabelRune c ∨ c = '.' := by
  induction cs generalizing p with
  | nil => simp
  | cons c cs ih =>
    obtain ⟨r, hr, hread⟩ := Option.bind_eq_some_iff.mp h
    refine List.forall_mem_cons.mpr ⟨?_, ih hread⟩
    rcases next_cases hr with ⟨hc, -⟩ | ⟨hc, -⟩ | ⟨hc, -⟩
    · exact .inl (.inl hc)
    · exact .inl (.inr hc)
    · exact .inr hc

theorem last_of_read {c : Char} (h : read p cs = some .inside) (hlast : cs.getLast? = some c) :
    LowerAlnum c := by
  obtain ⟨init, rfl⟩ := List.getLast?_eq_some_iff.mp hlast
  rw [read_append] at h
  obtain ⟨r, -, hr⟩ := Option.bind_eq_some_iff.mp h
  obtain ⟨q, hnext, hq⟩ := Option.bind_eq_some_iff.mp hr
  cases hq
  rcases next_cases hnext with ⟨hc, -⟩ | ⟨-, hplace⟩ | ⟨-, hplace⟩
  · exact hc
  · cases hplace
  · cases hplace

end Subdomain

theorem IsSubdomain.isLabelValue {s : String} (hs : IsSubdomain s)
    (hlength : s.toList.length ≤ 63) : IsLabelValue s where
  length := hlength
  runes c hc := by
    rcases runes_of_read hs.2 c hc with (hc | hc) | hc
    · exact .inl (.inl hc)
    · exact .inr (.inl hc)
    · exact .inr (.inr (.inr hc))
  head c hhead := by
    obtain ⟨d, hd, hlower⟩ := hs.head
    cases hhead.symm.trans hd
    exact .inl hlower
  last c hlast := .inl (last_of_read hs.2 hlast)

/-- Text that completes a label with at most `n` characters. -/
structure Closes (n : Nat) (s : String) : Prop where
  tail : LabelTail s.toList
  length : s.toList.length ≤ n

theorem Closes.after {m n : Nat} {s t : String} (ht : Closes n t)
    (hrunes : ∀ c ∈ s.toList, LabelRune c) (hlength : s.toList.length ≤ m) :
    Closes (m + n) (s ++ t) where
  tail := by
    rw [String.toList_append]
    exact ht.tail.append hrunes
  length := by
    rw [String.toList_append, List.length_append]
    exact Nat.add_le_add hlength ht.length

theorem Closes.append {m n : Nat} {s t : String} (hs : Closes m s) (ht : Closes n t) :
    Closes (m + n) (s ++ t) :=
  ht.after hs.tail.runes hs.length

theorem Closes.subdomain {n : Nat} {s t : String} (ht : Closes n t) (hs : IsSubdomain s)
    (hlength : s.toList.length + n ≤ 253) : IsSubdomain (s ++ t) :=
  hs.append ht.tail (Nat.le_trans (Nat.add_le_add_left ht.length _) hlength)

theorem closes_of_lowerAlnum {n : Nat} {s : String} (hne : s.toList ≠ [])
    (h : ∀ c ∈ s.toList, LowerAlnum c) (hlength : s.toList.length ≤ n) : Closes n s where
  tail := ⟨fun c hc => .inl (h c hc), s.toList.getLast hne,
    List.getLast?_eq_getLast_of_ne_nil hne, h _ (List.getLast_mem hne)⟩
  length := hlength

theorem lowerAlnum_of_isDigit {c : Char} (h : c.isDigit) : LowerAlnum c := by
  simp only [Char.isDigit, Bool.and_eq_true, decide_eq_true_eq] at h
  exact .inr h

theorem lowerAlnum_digitChar {n : Nat} (h : n < 16) : LowerAlnum (Nat.digitChar n) := by
  have hall : ∀ n < 16, LowerAlnum (Nat.digitChar n) := by decide
  exact hall n h

theorem nat_lowerAlnum (n : Nat) : ∀ c ∈ (toString n).toList, LowerAlnum c := by
  intro c hc
  rw [Nat.toString_eq_repr, Nat.toList_repr] at hc
  exact lowerAlnum_of_isDigit (Nat.isDigit_of_mem_toDigits (by decide) (by decide) hc)

theorem nat_length {n k : Nat} (hk : 0 < k) (h : n < 10 ^ k) : (toString n).toList.length ≤ k := by
  rw [Nat.toString_eq_repr, Nat.toList_repr, Nat.length_toDigits_le_iff (by decide) hk]
  exact h

theorem nat_text_inj {m n : Nat} (h : toString m = toString n) : m = n := by
  have hdigits := congrArg String.toList h
  simp only [Nat.toString_eq_repr, Nat.toList_repr] at hdigits
  rw [← @Nat.ofDigitChars_ten_toDigits m, hdigits, Nat.ofDigitChars_ten_toDigits]

theorem closes_nat {n : Nat} (h : n < 2 ^ 64) : Closes 20 (toString n) := by
  refine closes_of_lowerAlnum ?_ (nat_lowerAlnum n) (nat_length (by decide) (by omega))
  rw [Nat.toString_eq_repr, Nat.toList_repr]
  exact Nat.toDigits_ne_nil

/-- The range of an `int64`. -/
def Int64Range (n : Int) : Prop := -2 ^ 63 ≤ n ∧ n < 2 ^ 63

theorem closes_int {n : Int} (h : Int64Range n) : Closes 21 (toString n) := by
  obtain ⟨hlow, hhigh⟩ := h
  rw [Int.toString_eq_repr, Int.repr_eq_if]
  split
  · have hcloses : Closes 20 (toString n.toNat) := closes_nat (by omega)
    exact ⟨hcloses.tail, Nat.le_succ_of_le hcloses.length⟩
  · have hcloses : Closes 20 (toString (-n).toNat) := closes_nat (by omega)
    exact hcloses.after (m := 1) (by simp [LabelRune]) (by decide)

theorem toString_int {n : Int} (h : 0 ≤ n) : toString n = toString n.toNat := by
  rw [Int.toString_eq_repr, Int.repr_eq_if, if_pos h]
  rfl

/-! ## The parts of a name -/

theorem append_cons_inj {α : Type} {c : α} {xs ys ds es : List α} (hds : c ∉ ds) (hes : c ∉ es)
    (h : xs ++ c :: ds = ys ++ c :: es) : xs = ys ∧ ds = es := by
  rcases List.append_eq_append_iff.mp h with ⟨zs, rfl, htail⟩ | ⟨zs, rfl, htail⟩
  · cases zs with
    | nil => exact ⟨(List.append_nil _).symm, (List.cons.inj htail).2⟩
    | cons z zs =>
      rw [(List.cons.inj htail).2] at hds
      exact absurd (List.mem_append_right _ List.mem_cons_self) hds
  · cases zs with
    | nil => exact ⟨List.append_nil _, (List.cons.inj htail).2.symm⟩
    | cons z zs =>
      rw [(List.cons.inj htail).2] at hes
      exact absurd (List.mem_append_right _ List.mem_cons_self) hes

/-- A name can be taken apart at its last dash. -/
theorem dash_inj {s s' t t' : String} (ht : '-' ∉ t.toList) (ht' : '-' ∉ t'.toList)
    (h : s ++ "-" ++ t = s' ++ "-" ++ t') : s = s' ∧ t = t' := by
  have hlist := congrArg String.toList h
  simp only [String.toList_append, List.append_assoc] at hlist
  obtain ⟨hs, ht⟩ := append_cons_inj ht ht' hlist
  exact ⟨String.toList_inj.mp hs, String.toList_inj.mp ht⟩

theorem dash_notMem {s : String} (h : ∀ c ∈ s.toList, LowerAlnum c) : '-' ∉ s.toList := by
  intro hmem
  have hdash := h '-' hmem
  revert hdash
  decide

end Foundation
