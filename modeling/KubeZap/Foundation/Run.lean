import Mathlib.Data.List.Induction

/-! # Labelled runs

The finite runs of a labelled transition system, extended at their end, with the
list of their labels. A condition on a run may be about what was done before each
step: the labels so far and the next one.
-/

namespace Foundation

variable {S L : Type}

/-- From `s` the labels lead to the last state, one step each. -/
inductive Run (step : S → L → S → Prop) (s : S) : List L → S → Prop
  | nil : Run step s [] s
  | snoc {ls : List L} {l : L} {s' s'' : S} :
      Run step s ls s' → step s' l s'' → Run step s (ls ++ [l]) s''

/-- Every step of the run is one that `ok` admits after the steps before it. -/
def Guarded (ok : List L → L → Prop) (ls : List L) : Prop :=
  ∀ before l, before ++ [l] <+: ls → ok before l

theorem Guarded.nil (ok : List L → L → Prop) : Guarded ok [] := by
  intro before l h
  simp at h

variable {ok : List L → L → Prop} {ls : List L}

theorem Guarded.front {l : L} (h : Guarded ok (ls ++ [l])) : Guarded ok ls :=
  fun before l' hb => h before l' (hb.trans (List.prefix_append ls [l]))

theorem Guarded.last {l : L} (h : Guarded ok (ls ++ [l])) : ok ls l := h ls l (List.prefix_refl _)

theorem Guarded.snoc {l : L} (h : Guarded ok ls) (hl : ok ls l) : Guarded ok (ls ++ [l]) := by
  intro before l' hb
  rcases List.prefix_concat_iff.mp hb with heq | hb
  · obtain ⟨rfl, hlast⟩ := List.append_inj' heq rfl
    cases hlast
    exact hl
  · exact h before l' hb

theorem Guarded.single {l : L} (hl : ok [] l) : Guarded ok [l] :=
  (Guarded.nil ok).snoc hl

theorem Guarded.and {ok' : List L → L → Prop} (h : Guarded ok ls)
    (h' : Guarded ok' ls) : Guarded (fun before l => ok before l ∧ ok' before l) ls :=
  fun before l hb => ⟨h before l hb, h' before l hb⟩

variable {step : S → L → S → Prop} {s s' : S}

theorem Run.of_snoc {l : L}
    (hrun : Run step s (ls ++ [l]) s') : ∃ mid, Run step s ls mid ∧ step mid l s' := by
  generalize hls : ls ++ [l] = all at hrun
  cases hrun with
  | nil => simp at hls
  | snoc hrest hstep =>
    obtain ⟨rfl, hl⟩ := List.append_inj' hls rfl
    cases hl
    exact ⟨_, hrest, hstep⟩

theorem Run.imp {step' : S → L → S → Prop} (h : ∀ s l s', step s l s' → step' s l s')
    (hrun : Run step s ls s') : Run step' s ls s' := by
  induction hrun with
  | nil => exact .nil
  | snoc _ hlast ih => exact .snoc ih (h _ _ _ hlast)

/-- An invariant of the labels so far and the state, kept by every admitted step,
holds at the end of a run whose steps are all admitted. -/
theorem Run.invariant (hrun : Run step s ls s') (hok : Guarded ok ls) (inv : List L → S → Prop)
    (h : inv [] s)
    (hstep : ∀ before s l s', inv before s → ok before l → step s l s' → inv (before ++ [l]) s') :
    inv ls s' := by
  induction hrun with
  | nil => exact h
  | snoc _ hlast ih => exact hstep _ _ _ _ (ih hok.front) hok.last hlast

theorem Run.always (hrun : Run step s ls s') (inv : S → Prop) (h : inv s)
    (hstep : ∀ s l s', inv s → step s l s' → inv s') : inv s' := by
  induction hrun with
  | nil => exact h
  | snoc _ hlast ih => exact hstep _ _ _ ih hlast

theorem Run.always_mem (hrun : Run step s ls s') (inv : S → Prop) (h : inv s)
    (hstep : ∀ s l s', l ∈ ls → inv s → step s l s' → inv s') : inv s' := by
  induction hrun with
  | nil => exact h
  | snoc _ hlast ih =>
    have hbefore := ih fun s l s' hmem => hstep s l s' (List.mem_append_left _ hmem)
    exact hstep _ _ _ (List.mem_append_right _ (List.mem_singleton_self _)) hbefore hlast

theorem Run.append_iff {ls' : List L} :
    Run step s (ls ++ ls') s' ↔ ∃ mid, Run step s ls mid ∧ Run step mid ls' s' := by
  induction ls' using List.reverseRecOn generalizing s' with
  | nil =>
    rw [List.append_nil]
    constructor
    · intro hrun
      exact ⟨s', hrun, .nil⟩
    · rintro ⟨mid, hrun, hnil⟩
      generalize hls : ([] : List L) = nothing at hnil
      cases hnil with
      | nil => exact hrun
      | snoc => simp at hls
  | append_singleton ls' l ih =>
    rw [← List.append_assoc]
    constructor
    · intro hrun
      obtain ⟨last, hfront, hlast⟩ := hrun.of_snoc
      obtain ⟨mid, hrun, hrest⟩ := ih.mp hfront
      exact ⟨mid, hrun, .snoc hrest hlast⟩
    · rintro ⟨mid, hrun, hrest⟩
      obtain ⟨last, hfront, hlast⟩ := hrest.of_snoc
      exact .snoc (ih.mpr ⟨mid, hrun, hfront⟩) hlast

theorem Run.split_iff {before after : List L} {l : L} :
    Run step s (before ++ l :: after) s' ↔
      ∃ mid mid', Run step s before mid ∧ step mid l mid' ∧ Run step mid' after s' := by
  rw [List.append_cons, Run.append_iff]
  constructor
  · rintro ⟨mid', hfront, hafter⟩
    obtain ⟨mid, hbefore, hstep⟩ := hfront.of_snoc
    exact ⟨mid, mid', hbefore, hstep, hafter⟩
  · rintro ⟨mid, mid', hbefore, hstep, hafter⟩
    exact ⟨mid', .snoc hbefore hstep, hafter⟩

theorem Run.skip_iff {l : L} (hskip : ∀ s s', step s l s' ↔ s' = s) {before after : List L} :
    Run step s (before ++ l :: after) s' ↔ Run step s (before ++ after) s' := by
  rw [Run.split_iff, Run.append_iff]
  simp only [hskip]
  constructor
  · rintro ⟨mid, _, hbefore, rfl, hafter⟩
    exact ⟨_, hbefore, hafter⟩
  · rintro ⟨mid, hbefore, hafter⟩
    exact ⟨mid, mid, hbefore, rfl, hafter⟩

theorem Run.foldlM {f : S → L → Option S}
    (h : ∀ {before mid l s'}, Run step s before mid → f mid l = some s' → step mid l s') (hls : ls.foldlM f s = some s') : Run step s ls s' := by
  induction ls using List.reverseRecOn generalizing s' with
  | nil =>
    cases hls
    exact .nil
  | append_singleton ls l ih =>
    rw [List.foldlM_append] at hls
    obtain ⟨mid, hmid, hlast⟩ := Option.bind_eq_some_iff.mp hls
    obtain ⟨last, hl, hret⟩ := Option.bind_eq_some_iff.mp hlast
    cases hret
    exact .snoc (ih hmid) (h (ih hmid) hl)

end Foundation
