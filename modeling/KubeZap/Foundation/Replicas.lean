import KubeZap.Foundation.Protocol
import KubeZap.Foundation.Run
import Mathlib.Logic.Function.Basic

/-! # Replicas of one program

Replicas that each run the same program, again and again, one run of it at a time, in
one environment that knows which of them asks. Between two requests of a replica any
other may make one. The rule is that of `Protocol`, with assertions that each replica
holds for itself.
-/

namespace Foundation

open Function

variable {I W Req : Type} {Reply : Req → Type} {Stage α : Type}

structure Replicas (I W : Type) {Req : Type} (Reply : Req → Type) (α : Type) where
  world : W
  /-- What is left to do of the run that the replica is at, if it is at one. -/
  running : I → Option (Program Req Reply α)

inductive ReplicaAct (I : Type)
  | start (i : I)
  | call (i : I)
  /-- The run has returned. -/
  | finish (i : I)
  /-- The run is lost, wherever it was. -/
  | crash (i : I)

namespace Replicas

variable [DecidableEq I]

inductive Step (env : I → Env W Reply) (prog : Program Req Reply α) (s : Replicas I W Reply α) :
    ReplicaAct I → Replicas I W Reply α → Prop
  | start {i : I} : s.running i = none →
      Step env prog s (.start i) { s with running := update s.running i (some prog) }
  | call {i : I} {q : Req} {x : Reply q} {k : Reply q → Program Req Reply α} {w : W} :
      s.running i = some (.call q k) → env i s.world q x w →
      Step env prog s (.call i) ⟨w, update s.running i (some (k x))⟩
  | finish {i : I} {a : α} : s.running i = some (.pure a) →
      Step env prog s (.finish i) { s with running := update s.running i none }
  | crash {i : I} :
      Step env prog s (.crash i) { s with running := update s.running i none }

/-- What a replica holds survives what the others do; by its own moves it keeps what is shared. -/
structure Rules (env : I → Env W Reply) (moves : Protocol Stage Reply)
    (credible : (q : Req) → Reply q → Prop) (shared : W → Prop) (held : I → W → Stage → Prop)
    (first : Stage) : Prop where
  honest : ∀ i, (env i).Credible credible
  start : ∀ i w, shared w → held i w first
  own : ∀ i w σ q x w' σ', shared w → held i w σ → env i w q x w' → moves σ q x σ' →
    shared w' ∧ held i w' σ'
  others : ∀ i j w σ q x w' τ τ', i ≠ j → shared w → held i w σ → held j w τ → env j w q x w' →
    moves τ q x τ' → held i w' σ

variable {env : I → Env W Reply} {moves : Protocol Stage Reply}
  {credible : (q : Req) → Reply q → Prop} {shared : W → Prop} {held : I → W → Stage → Prop}
  {first : Stage} {post : Stage → α → Prop} {prog : Program Req Reply α}
  {s s' : Replicas I W Reply α}

/-- Every replica follows the protocol from a stage that its assertion is true of. -/
def Covered (moves : Protocol Stage Reply) (credible : (q : Req) → Reply q → Prop)
    (shared : W → Prop) (held : I → W → Stage → Prop) (post : Stage → α → Prop)
    (s : Replicas I W Reply α) : Prop :=
  shared s.world ∧ ∀ i p, s.running i = some p →
    ∃ σ, held i s.world σ ∧ Follows moves credible post σ p

theorem covered_update {w : W} {running : I → Option (Program Req Reply α)} {i : I}
    {entry : Option (Program Req Reply α)} (hothers : ∀ j p, j ≠ i → running j = some p →
      ∃ σ, held j w σ ∧ Follows moves credible post σ p)
    (hown : ∀ p, entry = some p → ∃ σ, held i w σ ∧ Follows moves credible post σ p) :
    ∀ j p, update running i entry j = some p →
      ∃ σ, held j w σ ∧ Follows moves credible post σ p := by
  intro j p hp
  rw [update_apply] at hp
  split at hp
  next hj =>
    subst hj
    exact hown p hp
  next hj => exact hothers j p hj hp

theorem Covered.step (rules : Rules env moves credible shared held first)
    (hprog : Follows moves credible post first prog) {act : ReplicaAct I}
    (h : s.Covered moves credible shared held post) (hstep : Step env prog s act s') :
    s'.Covered moves credible shared held post := by
  obtain ⟨hshared, hheld⟩ := h
  have hquiet : ∀ i j p, j ≠ i → s.running j = some p →
      ∃ σ, held j s.world σ ∧ Follows moves credible post σ p := fun _ j p _ => hheld j p
  cases hstep with
  | @start i hidle =>
    refine ⟨hshared, covered_update (hquiet i) ?_⟩
    rintro p ⟨⟩
    exact ⟨first, rules.start i _ hshared, hprog⟩
  | @call i q x k w hrunning henv =>
    obtain ⟨τ, hτ, hfollows⟩ := hheld i _ hrunning
    obtain ⟨τ', hmove, hrest⟩ := hfollows x (rules.honest i _ _ _ _ henv)
    obtain ⟨hshared', hτ'⟩ := rules.own i _ _ _ _ _ _ hshared hτ henv hmove
    refine ⟨hshared', covered_update ?_ ?_⟩
    · intro j p hj hp
      obtain ⟨σ, hσ, hfollows⟩ := hheld j p hp
      exact ⟨σ, rules.others j i _ _ _ _ _ _ _ hj hshared hσ hτ henv hmove, hfollows⟩
    · rintro p ⟨⟩
      exact ⟨τ', hτ', hrest⟩
  | @finish i a hrunning => exact ⟨hshared, covered_update (hquiet i) nofun⟩
  | @crash i => exact ⟨hshared, covered_update (hquiet i) nofun⟩

theorem covered_run (rules : Rules env moves credible shared held first)
    (hprog : Follows moves credible post first prog) {w : W} (hw : shared w)
    {acts : List (ReplicaAct I)} (hrun : Run (Step env prog) ⟨w, fun _ => none⟩ acts s) :
    s.Covered moves credible shared held post := by
  apply hrun.always (Covered moves credible shared held post)
  · refine ⟨hw, ?_⟩
    intro i p hp
    cases hp
  · intro s act s' hs hstep
    exact hs.step rules hprog hstep

omit [DecidableEq I] in
theorem Covered.returned (h : s.Covered moves credible shared held post) {i : I} {a : α}
    (hreturned : s.running i = some (.pure a)) : ∃ σ, held i s.world σ ∧ post σ a := by
  obtain ⟨σ, hσ, hfollows⟩ := h.2 i _ hreturned
  exact ⟨σ, hσ, hfollows⟩

end Replicas

end Foundation
