import KubeZap.Api.Runtime

/-! # Replacing a quoted text

`strings.ReplaceAll` on a text into which another was written between quotes.
-/

namespace KubeZap

section Replace

variable {old new xs rest : List Char}

theorem replaceAllFrom_skip (old new xs rest : List Char) :
    replaceAllFrom old new xs.length (xs ++ rest) = replaceAllFrom old new 0 rest := by
  induction xs with
  | nil => rfl
  | cons x xs ih => exact ih

theorem replaceAllFrom_match (hne : old ≠ []) :
    replaceAllFrom old new 0 (old ++ rest) = new ++ replaceAllFrom old new 0 rest := by
  obtain ⟨c, cs, rfl⟩ := List.exists_cons_of_ne_nil hne
  have hprefix : (c :: cs).isPrefixOf (c :: (cs ++ rest)) = true :=
    List.isPrefixOf_iff_prefix.mpr (List.prefix_append (c :: cs) rest)
  rw [List.cons_append, replaceAllFrom, if_pos hprefix]
  exact congrArg (new ++ ·) (replaceAllFrom_skip (c :: cs) new cs rest)

theorem replaceAllFrom_free (h : ∀ a b, xs = a ++ b → b ≠ [] → ¬ old <+: b ++ rest) :
    replaceAllFrom old new 0 (xs ++ rest) = xs ++ replaceAllFrom old new 0 rest := by
  induction xs with
  | nil => rfl
  | cons x xs ih =>
    have hno : ¬ old.isPrefixOf (x :: (xs ++ rest)) = true := fun hyes =>
      h [] (x :: xs) rfl (List.cons_ne_nil _ _) (List.isPrefixOf_iff_prefix.mp hyes)
    rw [List.cons_append, replaceAllFrom, if_neg hno, List.cons_append]
    refine congrArg (x :: ·) (ih fun a b hsplit => h (x :: a) b ?_)
    rw [hsplit, List.cons_append]

theorem prefix_before {c : Char} {b t : List Char} (hc : c ∉ old) (h : old <+: b ++ c :: t) :
    old <+: b := by
  have hb : b ++ [c] <+: b ++ c :: t := (List.prefix_append_right_inj b).mpr ⟨t, rfl⟩
  rcases List.prefix_or_prefix_of_prefix h hb with hold | hold
  · rcases List.prefix_concat_iff.mp hold with rfl | hprefix
    · exact absurd (List.mem_append_right b List.mem_cons_self) hc
    · exact hprefix
  · exact absurd (hold.subset (List.mem_append_right b List.mem_cons_self)) hc

theorem replaceAllFrom_piece {c : Char} (hc : c ∉ old) (hfree : ¬ old <:+: xs)
    (hrest : rest = [] ∨ ∃ t, rest = c :: t) :
    replaceAllFrom old new 0 (xs ++ rest) = xs ++ replaceAllFrom old new 0 rest := by
  refine replaceAllFrom_free fun a b hsplit _ hprefix => hfree ?_
  have hb : old <+: b := by
    rcases hrest with rfl | ⟨t, rfl⟩
    · simpa using hprefix
    · exact prefix_before hc hprefix
  obtain ⟨t, rfl⟩ := hb
  exact ⟨a, t, by rw [hsplit, List.append_assoc]⟩

theorem replaceAllFrom_char {c : Char} (hne : old ≠ []) (hc : c ∉ old) :
    replaceAllFrom old new 0 (c :: rest) = c :: replaceAllFrom old new 0 rest := by
  have hno : ¬ old.isPrefixOf (c :: rest) = true := by
    intro hyes
    have hnil : old <+: [] := prefix_before hc (List.isPrefixOf_iff_prefix.mp hyes)
    exact hne (List.prefix_nil.mp hnil)
  rw [replaceAllFrom, if_neg hno]

end Replace

def embed (text : String) : List String → String
  | [] => ""
  | [piece] => piece
  | piece :: next :: pieces => piece ++ text ++ embed text (next :: pieces)

/-- `"` before and after, as `%q` writes a text that needs no escapes. -/
def inQuotes (s : String) : String := "\"" ++ s ++ "\""

def ContainsText (s sub : String) : Prop := sub.toList <:+: s.toList

theorem replaceAll_embed {url shown : String} {pieces : List String} (hne : url ≠ "")
    (hquote : '"' ∉ url.toList) (hfree : ∀ piece ∈ pieces, ¬ ContainsText piece url) :
    stringsReplaceAll (embed (inQuotes url) pieces) url shown = embed (inQuotes shown) pieces := by
  have hold : url.toList ≠ [] := by simpa using hne
  have hlist : replaceAllFrom url.toList shown.toList 0 (embed (inQuotes url) pieces).toList =
      (embed (inQuotes shown) pieces).toList := by
    induction pieces with
    | nil => rfl
    | cons piece pieces ih =>
      have hpiece := hfree piece List.mem_cons_self
      have hrest := ih fun p hp => hfree p (List.mem_cons_of_mem _ hp)
      cases pieces with
      | nil =>
        have hend := @replaceAllFrom_piece url.toList shown.toList piece.toList [] '"' hquote
          hpiece (.inl rfl)
        rw [List.append_nil] at hend
        rw [embed, embed, hend, replaceAllFrom, List.append_nil]
      | cons next pieces =>
        simp only [embed, inQuotes, String.toList_append, List.append_assoc] at hrest ⊢
        change replaceAllFrom _ _ 0 (piece.toList ++ '"' :: (url.toList ++ '"' :: _)) =
          piece.toList ++ '"' :: (shown.toList ++ '"' :: _)
        rw [replaceAllFrom_piece hquote hpiece (.inr ⟨_, rfl⟩),
          replaceAllFrom_char hold hquote, replaceAllFrom_match hold,
          replaceAllFrom_char hold hquote]
        exact congrArg (fun t => piece.toList ++ '"' :: (shown.toList ++ '"' :: t)) hrest
  rw [stringsReplaceAll, hlist, String.ofList_toList]

theorem replaceAll_free {s old new : String} (h : ¬ ContainsText s old) :
    stringsReplaceAll s old new = s := by
  have hnone : ∀ a b, s.toList = a ++ b → b ≠ [] → ¬ old.toList <+: b ++ [] := by
    rintro a b hsplit - ⟨t, ht⟩
    rw [List.append_nil] at ht
    exact h ⟨a, t, by rw [hsplit, ← ht, List.append_assoc]⟩
  have hlist := @replaceAllFrom_free old.toList new.toList s.toList [] hnone
  rw [List.append_nil, replaceAllFrom, List.append_nil] at hlist
  rw [stringsReplaceAll, hlist, String.ofList_toList]

end KubeZap
