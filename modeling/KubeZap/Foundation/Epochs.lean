import Mathlib.Algebra.Order.Group.Defs
import Mathlib.Data.List.Perm.Subperm
import Mathlib.Order.Monotone.Defs

/-! # Counting windows

A limiter that keeps one counter admits a number of events in an epoch and begins a
new epoch when the length of the last one has passed. It may keep the beginning of an
epoch only to some precision: `round` is the value it keeps. `Ledger` is what the
epochs satisfy when every event is entered in its order.
-/

namespace Foundation

variable {T : Type}

/-- The beginning of a counting window, as it was kept, and the events admitted in it. -/
structure Epoch (T : Type) where
  start : T
  admitted : List T
deriving DecidableEq

/-- Begin an epoch with an event at `t`. The latest epoch is the first one. -/
def openEpoch (round : T → T) (t : T) (epochs : List (Epoch T)) : List (Epoch T) :=
  ⟨round t, [t]⟩ :: epochs

def joinEpoch (t : T) : List (Epoch T) → List (Epoch T)
  | [] => []
  | e :: epochs => ⟨e.start, t :: e.admitted⟩ :: epochs

/-- An event at `t` was admitted in one of the epochs. -/
def AdmittedIn (epochs : List (Epoch T)) (t : T) : Prop := ∃ e ∈ epochs, t ∈ e.admitted

theorem admittedIn_openEpoch_self (round : T → T) (t : T) (epochs : List (Epoch T)) :
    AdmittedIn (openEpoch round t epochs) t := ⟨⟨round t, [t]⟩, by simp [openEpoch], by simp⟩

theorem AdmittedIn.openEpoch {epochs : List (Epoch T)} {t : T} (h : AdmittedIn epochs t)
    (round : T → T) (t' : T) : AdmittedIn (openEpoch round t' epochs) t := by
  obtain ⟨e, he, ht⟩ := h
  exact ⟨e, List.mem_cons_of_mem _ he, ht⟩

theorem AdmittedIn.joinEpoch {epochs : List (Epoch T)} {t : T} (h : AdmittedIn epochs t) (t' : T) :
    AdmittedIn (joinEpoch t' epochs) t := by
  obtain ⟨e, he, ht⟩ := h
  cases epochs with
  | nil => cases he
  | cons latest earlier =>
    rcases List.mem_cons.mp he with rfl | he
    · exact ⟨⟨e.start, t' :: e.admitted⟩, by simp [Foundation.joinEpoch], by simp [ht]⟩
    · exact ⟨e, List.mem_cons_of_mem _ he, ht⟩

variable [LinearOrder T] [Add T]

/-- `t` is in the period of length `w` that begins with the epoch. -/
def Epoch.Covers (w : T) (e : Epoch T) (t : T) : Prop := e.start ≤ t ∧ t < e.start + w

instance (w : T) (e : Epoch T) (t : T) : Decidable (e.Covers w t) :=
  inferInstanceAs (Decidable (_ ∧ _))

/-- An event at `t` is neither before the latest epoch nor in an earlier one. -/
def Timely (w t : T) : List (Epoch T) → Prop
  | [] => True
  | e :: epochs => e.start ≤ t ∧ ∀ e' ∈ epochs, ¬ e'.Covers w t

/-- Epochs of at most `m` events each, every one begun by its first event, none of
which has an event of another one before the precision it is kept to. -/
structure Ledger (round : T → T) (w : T) (m : Nat) (epochs : List (Epoch T)) : Prop where
  opener : ∀ e ∈ epochs, ∃ t ∈ e.admitted, round t = e.start
  bounded : ∀ e ∈ epochs, e.admitted.length ≤ m
  within : ∀ e ∈ epochs, ∀ t ∈ e.admitted, round t = e.start ∨ e.Covers w t
  ordered : epochs.Pairwise fun later earlier => ∀ t ∈ earlier.admitted, round t ≤ later.start
  apart : epochs.Pairwise fun later earlier => ∀ t ∈ later.admitted, ¬ earlier.Covers w t

section Entries

variable {round : T → T} {w t : T} {m : Nat} {epochs : List (Epoch T)} {e : Epoch T}

theorem Ledger.nil (round : T → T) (w : T) (m : Nat) : Ledger round w m [] := by
  constructor <;> simp

theorem Ledger.round_start (hidem : ∀ t, round (round t) = round t) (h : Ledger round w m epochs)
    (he : e ∈ epochs) : round e.start = e.start := by
  obtain ⟨t, -, ht⟩ := h.opener e he
  rw [← ht, hidem]

theorem Ledger.opened (hmono : Monotone round) (hidem : ∀ t, round (round t) = round t)
    (h : Ledger round w m epochs) (hm : 1 ≤ m) (htimely : Timely w t epochs)
    (hpassed : ∀ e ∈ epochs.head?, e.start + w ≤ t) : Ledger round w m (openEpoch round t epochs) := by
  have hlast : ∀ e ∈ epochs, ∀ s ∈ e.admitted, round s ≤ round t := by
    cases epochs with
    | nil => simp
    | cons latest earlier =>
      have hopened : latest.start ≤ round t := by
        rw [← h.round_start hidem (e := latest) (by simp)]
        exact hmono htimely.1
      intro e he s hs
      rcases List.mem_cons.mp he with rfl | he
      · rcases h.within e (by simp) s hs with heq | hcovers
        · exact heq.trans_le hopened
        · exact hmono (hcovers.2.le.trans (hpassed e rfl))
      · exact ((List.pairwise_cons.mp h.ordered).1 e he s hs).trans hopened
  have hout : ∀ e ∈ epochs, ¬ e.Covers w t := by
    cases epochs with
    | nil => simp
    | cons latest earlier =>
      intro e he hcovers
      rcases List.mem_cons.mp he with rfl | he
      · exact absurd hcovers.2 (not_lt.mpr (hpassed e rfl))
      · exact htimely.2 e he hcovers
  refine ⟨?_, ?_, ?_, ?_, ?_⟩
  · refine List.forall_mem_cons.mpr ⟨?_, h.opener⟩
    exact ⟨t, by simp, rfl⟩
  · exact List.forall_mem_cons.mpr ⟨hm, h.bounded⟩
  · refine List.forall_mem_cons.mpr ⟨?_, h.within⟩
    simp
  · exact List.pairwise_cons.mpr ⟨hlast, h.ordered⟩
  · refine List.pairwise_cons.mpr ⟨?_, h.apart⟩
    simpa using hout

theorem Ledger.joined (h : Ledger round w m (e :: epochs)) (htimely : Timely w t (e :: epochs))
    (hopen : t < e.start + w) (hroom : e.admitted.length < m) :
    Ledger round w m (joinEpoch t (e :: epochs)) := by
  refine ⟨?_, ?_, ?_, ?_, ?_⟩
  · refine List.forall_mem_cons.mpr ⟨?_, fun e' he' => h.opener e' (by simp [he'])⟩
    obtain ⟨s, hs, hstart⟩ := h.opener e (by simp)
    exact ⟨s, by simp [hs], hstart⟩
  · exact List.forall_mem_cons.mpr ⟨hroom, fun e' he' => h.bounded e' (by simp [he'])⟩
  · refine List.forall_mem_cons.mpr ⟨?_, fun e' he' => h.within e' (by simp [he'])⟩
    intro s hs
    rcases List.mem_cons.mp hs with rfl | hs
    · exact .inr ⟨htimely.1, hopen⟩
    · exact h.within e (by simp) s hs
  · have hordered := List.pairwise_cons.mp h.ordered
    exact List.pairwise_cons.mpr ⟨hordered.1, hordered.2⟩
  · have hapart := List.pairwise_cons.mp h.apart
    refine List.pairwise_cons.mpr ⟨?_, hapart.2⟩
    intro e' he' s hs
    rcases List.mem_cons.mp hs with rfl | hs
    · exact htimely.2 e' he'
    · exact hapart.1 e' he' s hs

theorem Ledger.round_mem (hmono : Monotone round) (hidem : ∀ t, round (round t) = round t)
    (h : Ledger round w m epochs) (he : e ∈ epochs) {e' : Epoch T} (he' : e' ∈ epochs)
    (ht : t ∈ e'.admitted) (hcovers : e.Covers w t) : round t ∈ e.admitted.map round := by
  obtain ⟨i, hi, rfl⟩ := List.mem_iff_getElem.mp he
  obtain ⟨j, hj, rfl⟩ := List.mem_iff_getElem.mp he'
  rcases lt_trichotomy i j with hlt | rfl | hgt
  · -- Admitted earlier: it shares the kept value of the opener.
    obtain ⟨s, hs, hstart⟩ := h.opener epochs[i] he
    have hle : round t ≤ epochs[i].start := (List.pairwise_iff_getElem.mp h.ordered) i j hi hj hlt t ht
    have hge : epochs[i].start ≤ round t := by
      rw [← h.round_start hidem he]
      exact hmono hcovers.1
    rw [le_antisymm hle hge, ← hstart]
    exact List.mem_map_of_mem hs
  · exact List.mem_map_of_mem ht
  · exact absurd hcovers ((List.pairwise_iff_getElem.mp h.apart) j i hj hi hgt t ht)

theorem Ledger.count_le (hmono : Monotone round) (hidem : ∀ t, round (round t) = round t)
    (h : Ledger round w m epochs) (he : e ∈ epochs) {events : List T}
    (hnodup : (events.map round).Nodup) (hadmitted : ∀ t ∈ events, AdmittedIn epochs t) :
    (events.filter fun t => e.Covers w t).length ≤ m := by
  have hsub : (events.filter fun t => e.Covers w t).map round ⊆ e.admitted.map round := by
    intro r hr
    obtain ⟨t, ht, rfl⟩ := List.mem_map.mp hr
    obtain ⟨hmem, hcovers⟩ := List.mem_filter.mp ht
    obtain ⟨e', he', hadm⟩ := hadmitted t hmem
    exact h.round_mem hmono hidem he he' hadm (of_decide_eq_true hcovers)
  have hlen := ((hnodup.sublist (List.filter_sublist.map round)).subperm hsub).length_le
  rw [List.length_map, List.length_map] at hlen
  exact hlen.trans (h.bounded e he)

end Entries

end Foundation
