import Mathlib.Algebra.Group.Int.Defs
import Mathlib.Algebra.Group.Nat.Defs
import KubeZap.Controller.ExecuteStep

/-! # The delay before a retry

What `RetryPolicy` documents as the delay before attempt `k`, over unbounded
integers, against what `retryDelay` computes, and where exactly the two agree.
-/

namespace KubeZap

variable (policy : RetryPolicy)

/-- The whole number that `Multiplier` is written as: digits, and a fraction of zeros. -/
def RetryPolicy.wholeMultiplier : Option Nat :=
  let whole := policy.multiplier.toList.takeWhile Char.isDigit
  match policy.multiplier.toList.dropWhile Char.isDigit with
  | [] => if whole = [] then none else some (Nat.ofDigitChars 10 whole 0)
  | '.' :: fraction =>
    if whole = [] ∨ ¬ fraction.all (· == '0') then none else some (Nat.ofDigitChars 10 whole 0)
  | _ => none

/-- The documented delay before attempt `k`, with the cap `M`. -/
def RetryPolicy.documentedDelay (I M m k : Nat) : Nat :=
  match policy.backoffType with
  | .exponential => min M (I * m ^ (k - 1))
  | .linear => min M (I * k)
  | .fixed => min M I

/-- A delay that is computed as `d` and documented as `e` is the same one below the cap `M`. -/
def SameDelay (M : Nat) (d : Int) (e : Nat) : Prop := d = e ∨ M ≤ d ∧ M ≤ e

/-- The loop doubles, in 64 bits, whatever the multiplier is; the product of a linear delay has
64 bits as well, and a fixed delay is not capped. -/
def RetryPolicy.Kept (I M m k : Nat) : Prop :=
  match policy.backoffType with
  | .exponential => SameDelay M (wrapDuration (I * 2 ^ (k - 1))) (I * m ^ (k - 1))
  | .linear => SameDelay M (wrapDuration (I * k)) (I * k)
  | .fixed => I ≤ M

instance (policy : RetryPolicy) (I M m k : Nat) : Decidable (policy.Kept I M m k) := by
  unfold RetryPolicy.Kept SameDelay
  split <;> infer_instance

theorem repeat_double {I : Nat} (hI : I < 2 ^ 63) (n : Nat) :
    Nat.repeat (fun d => wrapDuration (d * 2)) n (I : Duration) = wrapDuration (I * 2 ^ n) := by
  induction n with
  | zero =>
    have hself : wrapDuration (I : Duration) = I := by
      unfold wrapDuration
      apply Int.bmod_eq_of_le <;> omega
    simpa [Nat.repeat] using hself.symm
  | succ n ih =>
    rw [Nat.repeat, ih, wrapDuration, wrapDuration, wrapDuration, Int.bmod_mul_bmod, pow_succ,
      Int.mul_assoc]

theorem capped_eq_iff {M e : Nat} {d : Int} :
    (if d > M then (M : Int) else d) = (min M e : Nat) ↔ SameDelay M d e := by
  unfold SameDelay
  rcases Nat.le_total M e with h | h
  · rw [Nat.min_eq_left h]
    split <;> omega
  · rw [Nat.min_eq_right h]
    split <;> omega

theorem retryDelay_eq_iff {policy : RetryPolicy} {I M k : Nat} (hI : I < 2 ^ 63)
    (hinitial : policy.initialDelay = some (I : Duration))
    (hM : policy.maxDelay = some (M : Duration)) (m : Nat) :
    retryDelay (some policy) k = policy.documentedDelay I M m k ↔ policy.Kept I M m k := by
  simp only [retryDelay, RetryPolicy.documentedDelay, RetryPolicy.Kept, hinitial, hM,
    Option.getD_some]
  cases policy.backoffType with
  | exponential =>
    simp only [repeat_double hI]
    exact capped_eq_iff
  | linear => exact capped_eq_iff
  | fixed =>
    constructor
    · intro h
      have hmin : I = min M I := Int.ofNat.inj h
      omega
    · intro h
      exact congrArg Int.ofNat (Nat.min_eq_right h).symm

theorem documentedDelay_le (I M m k : Nat) : policy.documentedDelay I M m k ≤ M := by
  unfold RetryPolicy.documentedDelay
  split <;> exact Nat.min_le_left _ _

theorem documentedDelay_mono (I M : Nat) {m k k' : Nat} (hm : 1 ≤ m)
    (hk : k ≤ k') : policy.documentedDelay I M m k ≤ policy.documentedDelay I M m k' := by
  unfold RetryPolicy.documentedDelay
  split
  · have hpow : m ^ (k - 1) ≤ m ^ (k' - 1) := Nat.pow_le_pow_right hm (by omega)
    have hprod := Nat.mul_le_mul_left I hpow
    omega
  · have hprod := Nat.mul_le_mul_left I hk
    omega
  · exact le_rfl

/-- The delay before a retry is the documented one where it is kept, and only there; it is then
between 0 and the cap, and does not shrink from one attempt to a later one. -/
theorem retryDelay_documented (policy : RetryPolicy) (I M m k : Nat) (hI : I < 2 ^ 63)
    (hinitial : policy.initialDelay = some (I : Duration))
    (hM : policy.maxDelay = some (M : Duration)) (_hm : policy.wholeMultiplier = some m)
    (hpos : 1 ≤ m) :
    (retryDelay (some policy) k = policy.documentedDelay I M m k ↔ policy.Kept I M m k) ∧
    (policy.Kept I M m k → 0 ≤ retryDelay (some policy) k ∧ retryDelay (some policy) k ≤ M ∧
      ∀ k' : Nat, k ≤ k' → policy.Kept I M m k' →
        retryDelay (some policy) k ≤ retryDelay (some policy) k') := by
  refine ⟨retryDelay_eq_iff hI hinitial hM m, fun hkept => ?_⟩
  have hdelay := (retryDelay_eq_iff hI hinitial hM m).mpr hkept
  refine ⟨?_, ?_, ?_⟩
  · rw [hdelay]
    exact Int.natCast_nonneg _
  · rw [hdelay]
    exact Int.ofNat_le.mpr (documentedDelay_le policy I M m k)
  · intro k' hle hkept'
    rw [hdelay, (retryDelay_eq_iff hI hinitial hM m).mpr hkept']
    exact Int.ofNat_le.mpr (documentedDelay_mono policy I M hpos hle)

def defaultPolicy : RetryPolicy :=
  { maxRetries := 50, initialDelay := some second, maxDelay := some (60 * second),
    multiplier := "2.0" }

theorem retryDelay_documented_default :
    retryDelay (some defaultPolicy) 5 = (16000000000 : Nat) ∧
      retryDelay (some defaultPolicy) 5 ≤ retryDelay (some defaultPolicy) 30 := by
  obtain ⟨hdelay, hrest⟩ := retryDelay_documented defaultPolicy 1000000000 60000000000 2 5
    (by decide) rfl rfl (by decide +kernel) (by decide)
  exact ⟨hdelay.mpr (by decide), (hrest (by decide)).2.2 30 (by decide) (by decide)⟩

/-- At attempt 35 the doubled delay has wrapped around and is negative; a multiplier
of 3 is read as 2; a fixed delay is not capped. -/
theorem retryDelay_undocumented :
    retryDelay (some defaultPolicy) 35 < 0 ∧
      retryDelay (some { defaultPolicy with multiplier := "3" }) 2 ≠
        { defaultPolicy with multiplier := "3" }.documentedDelay 1000000000 60000000000 3 2 ∧
      retryDelay (some { defaultPolicy with
        backoffType := .fixed, initialDelay := some (120 * second) }) 1 > 60 * second := by
  decide +kernel

end KubeZap
