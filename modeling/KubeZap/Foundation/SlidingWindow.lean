import Mathlib.Algebra.Order.Group.Defs
import Mathlib.Algebra.Order.Sub.Basic
import Mathlib.Data.List.Basic

/-! # Sliding windows

A limiter that admits at most a number of events in any period of a given length
may forget the events that have left the period behind its last check. `Tracks`
says that what it kept still decides every later check as the full history would,
`Bounded` what the history then satisfies.
-/

namespace Foundation

variable {T : Type} [AddCommGroup T] [LinearOrder T]

/-- The instants of the last `w` before `now`. -/
def prune (w now : T) (instants : List T) : List T := instants.filter fun t => now - w < t

/-- From `since` on, `kept` decides as `admitted` does. -/
def Tracks (w since : T) (kept admitted : List T) : Prop :=
  ∀ now, since ≤ now → prune w now kept = prune w now admitted

/-- In every set of instants less than `w` apart, at most `m` were admitted. -/
def Bounded (m : Nat) (w : T) (admitted : List T) : Prop :=
  ∀ near : T → Bool, (∀ s t, near s = true → near t = true → t - w < s) →
    admitted.countP near ≤ m

theorem Tracks.nil (w since : T) : Tracks w since [] [] := fun _ _ => rfl

theorem Tracks.later {w since now : T} {kept admitted : List T} (h : Tracks w since kept admitted)
    (hle : since ≤ now) : Tracks w now kept admitted :=
  fun later hlater => h later (hle.trans hlater)

theorem Bounded.nil (m : Nat) (w : T) : Bounded m w [] := fun _ _ => Nat.zero_le m

theorem prune_append (w now : T) (l l' : List T) :
    prune w now (l ++ l') = prune w now l ++ prune w now l' := List.filter_append ..

theorem Bounded.admits {m : Nat} {w now : T} {admitted : List T} (h : Bounded m w admitted)
    (hfew : (prune w now admitted).length < m) : Bounded m w (admitted ++ [now]) := by
  intro near hnear
  rw [List.countP_append, List.countP_singleton]
  split
  next hnow =>
    have hle : admitted.countP near ≤ (prune w now admitted).length := by
      rw [prune, ← List.countP_eq_length_filter]
      refine List.countP_mono_left ?_
      intro t _ ht
      simpa using hnear t now ht hnow
    omega
  · exact h near hnear

variable [IsOrderedAddMonoid T]

theorem prune_prune {w since now : T} (hle : since ≤ now) (instants : List T) :
    prune w now (prune w since instants) = prune w now instants := by
  unfold prune
  rw [List.filter_filter]
  refine List.filter_congr ?_
  intro t _
  have hsub : since - w ≤ now - w := sub_le_sub_right hle w
  by_cases ht : now - w < t
  · simp [ht, hsub.trans_lt ht]
  · simp [ht]

theorem Tracks.check {w since now : T} {kept admitted : List T} (h : Tracks w since kept admitted)
    (hle : since ≤ now) : Tracks w now (prune w now kept) admitted := by
  intro later hlater
  rw [prune_prune hlater]
  exact h later (hle.trans hlater)

theorem Tracks.admits {w since now : T} {kept admitted : List T} (h : Tracks w since kept admitted)
    (hle : since ≤ now) : Tracks w now (prune w now kept ++ [now]) (admitted ++ [now]) := by
  intro later hlater
  rw [prune_append, prune_append, h.check hle later hlater]

end Foundation
