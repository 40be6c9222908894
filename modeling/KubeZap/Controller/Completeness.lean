import Mathlib.Order.WellFoundedSet
import KubeZap.Controller.FlowValidation
import KubeZap.Controller.Order

/-! # What success means

A FlowRun succeeds by one of two tests: every step is terminal, or nothing is
ready and nothing is active. The second implies the first exactly because a step
without a terminal entry has, in an acyclic Flow, a first one before it, and that
one would be ready or active.
-/

namespace KubeZap

open Foundation

/-- Step `b` waits for step `a`. -/
def FlowSpec.Before (spec : FlowSpec) (a b : String) : Prop :=
  ∃ step ∈ spec.steps, step.name = b ∧ a ∈ step.runAfter

def FlowSpec.Acyclic (spec : FlowSpec) : Prop :=
  ∀ name, ¬ Relation.TransGen spec.Before name name

theorem FlowSpec.acyclic_of_rank {spec : FlowSpec} (rank : String → Nat)
    (h : ∀ step ∈ spec.steps, ∀ dep ∈ step.runAfter, rank dep < rank step.name) : spec.Acyclic := by
  have hlt : ∀ a b, Relation.TransGen spec.Before a b → rank a < rank b := by
    intro a b hab
    induction hab with
    | single hedge =>
      obtain ⟨step, hstep, rfl, hdep⟩ := hedge
      exact h step hstep _ hdep
    | tail _ hedge ih =>
      obtain ⟨step, hstep, rfl, hdep⟩ := hedge
      exact Nat.lt_trans ih (h step hstep _ hdep)
  exact fun name hcycle => Nat.lt_irrefl _ (hlt name name hcycle)

theorem FlowSpec.Acyclic.induction {spec : FlowSpec} (hac : spec.Acyclic) {p : String → Prop}
    (hstep : ∀ name ∈ spec.steps.map FlowStep.name,
      (∀ dep ∈ spec.steps.map FlowStep.name, spec.Before dep name → p dep) → p name) :
    ∀ name ∈ spec.steps.map FlowStep.name, p name := by
  have : IsStrictOrder String (Relation.TransGen spec.Before) :=
    { irrefl := hac, trans := fun _ _ _ => Relation.TransGen.trans }
  have hwf : {name | name ∈ spec.steps.map FlowStep.name}.WellFoundedOn
      (Relation.TransGen spec.Before) := (List.finite_toSet _).wellFoundedOn
  intro name hname
  refine hwf.induction hname fun b hb ih => hstep b hb fun dep hdep hbefore => ?_
  exact ih dep hdep (.single hbefore)

section Exhausted

variable {flow : Flow} {xs : List StepRunStatus}

theorem stepTerminal_iff {name : String} :
    stepTerminal xs name = true ↔
      ∃ s, findStepStatus xs name = some s ∧ s.phase.terminal = true := by
  unfold stepTerminal
  cases findStepStatus xs name <;> simp

theorem failureContinues_of_fatalEntry (h : fatalEntry flow xs = none) {e : StepRunStatus}
    (he : e ∈ xs) (hphase : e.phase = .failed) {step : FlowStep} (hstep : step ∈ flow.spec.steps)
    (hname : step.name = e.name) : failureContinues flow.spec step = true := by
  have hfind := List.find?_eq_none.mp h e he
  simp only [hphase, beq_self_eq_true, Bool.true_and, List.any_eq_true, not_exists, not_and,
    Bool.and_eq_true, beq_iff_eq] at hfind
  simpa using hfind step hstep hname

theorem dependencyMet_of_terminal (hvalid : flow.spec.Valid) (hsound : fatalEntry flow xs = none)
    {dep : String} (hdep : dep ∈ flow.spec.steps.map FlowStep.name)
    (hterm : stepTerminal xs dep = true) :
    dependencyMet xs flow.spec.steps (flow.spec.failurePolicy == .continuing) dep = true := by
  obtain ⟨s, hs, hterminal⟩ := stepTerminal_iff.mp hterm
  rw [dependencyMet_iff]
  refine ⟨s, hs, ?_⟩
  cases hphase : s.phase with
  | succeeded => exact .inl rfl
  | skipped => exact .inr (.inl rfl)
  | failed =>
    obtain ⟨step, hstep, rfl⟩ := List.mem_map.mp hdep
    have hcont := failureContinues_of_fatalEntry hsound (mem_of_findStepStatus hs) hphase hstep
      (name_of_findStepStatus hs).symm
    simp only [failureContinues, Bool.or_eq_true, beq_iff_eq] at hcont
    refine .inr (.inr ⟨rfl, ?_⟩)
    rcases hcont with hon | hpol
    · exact .inr ⟨step, Keyed.find_of_mem hvalid.distinct hstep, hon⟩
    · exact .inl (by rw [hpol]; rfl)
  | empty | pending | running | waiting => rw [hphase] at hterminal; cases hterminal

theorem terminal_of_idle {step : FlowStep} (hstep : step ∈ flow.spec.steps)
    (hwave : collectWave flow xs = []) (hidle : anyRunning flow xs = false)
    (hdeps : dependenciesMet step xs flow.spec.steps
      (flow.spec.failurePolicy == .continuing) = true) :
    stepTerminal xs step.name = true := by
  have hnot : inWave flow xs step = false := by
    have := List.filter_eq_nil_iff.mp hwave step hstep
    simpa using this
  have hinactive : stepActive xs step.name = false := by
    have := List.any_eq_false.mp hidle step hstep
    simpa using this
  simp only [inWave, hdeps, Bool.true_and, Bool.or_eq_false_iff, Bool.not_eq_false'] at hnot
  have hproc := hnot.1
  unfold processed at hproc
  unfold stepActive at hinactive
  unfold stepTerminal
  cases hs : findStepStatus xs step.name with
  | none => rw [hs] at hproc; cases hproc
  | some s =>
    rw [hs] at hproc hinactive
    cases hphase : s.phase <;> simp_all [StepPhase.unstarted, StepPhase.terminal]

theorem terminal_of_exhausted (hvalid : flow.spec.Valid) (hac : flow.spec.Acyclic)
    (h : Exhausted flow xs) :
    ∀ name ∈ flow.spec.steps.map FlowStep.name, stepTerminal xs name = true := by
  rcases h.done with hall | ⟨hwave, hidle⟩
  · intro name hname
    obtain ⟨step, hstep, rfl⟩ := List.mem_map.mp hname
    exact List.all_eq_true.mp hall step hstep
  · refine hac.induction fun name hname ih => ?_
    obtain ⟨step, hstep, rfl⟩ := List.mem_map.mp hname
    refine terminal_of_idle hstep hwave hidle (dependenciesMet_iff.mpr fun dep hdep => ?_)
    have hknown := hvalid.known step hstep dep hdep
    exact dependencyMet_of_terminal hvalid h.sound hknown
      (ih dep hknown ⟨step, hstep, rfl, hdep⟩)

end Exhausted

/-- Every step has ended, and every failure was tolerated. -/
structure Complete (flow : Flow) (xs : List StepRunStatus) : Prop where
  ended : ∀ step ∈ flow.spec.steps, ∃ e ∈ xs, e.name = step.name ∧
    (e.phase = .succeeded ∨ e.phase = .skipped ∨ e.phase = .failed)
  tolerated : ∀ e ∈ xs, e.phase = .failed → ∃ step ∈ flow.spec.steps, step.name = e.name ∧
    (step.onFailure = .continuing ∨ flow.spec.failurePolicy = .continuing)

theorem Complete.encode {flow : Flow} {xs : List StepRunStatus} (h : Complete flow xs) :
    Complete flow (xs.map StepRunStatus.encode) := by
  refine ⟨fun step hstep => ?_, fun e he hphase => ?_⟩
  · obtain ⟨e, he, hname, hphase⟩ := h.ended step hstep
    exact ⟨e.encode, List.mem_map_of_mem he, hname, hphase⟩
  · obtain ⟨e₀, he₀, rfl⟩ := List.mem_map.mp he
    exact h.tolerated e₀ he₀ hphase

theorem complete_of_exhausted {flow : Flow} {why : FlowStep → Prop} {xs : List StepRunStatus}
    (hvalid : flow.spec.Valid) (hac : flow.spec.Acyclic) (hord : Ordered flow why xs)
    (h : Exhausted flow xs) : Complete flow xs := by
  refine ⟨fun step hstep => ?_, fun e he hphase => ?_⟩
  · obtain ⟨s, hs, hterm⟩ := stepTerminal_iff.mp
      (terminal_of_exhausted hvalid hac h step.name (List.mem_map_of_mem hstep))
    refine ⟨s, mem_of_findStepStatus hs, name_of_findStepStatus hs, ?_⟩
    cases hphase : s.phase <;> simp_all [StepPhase.terminal]
  · obtain ⟨step, hstep, hname, _⟩ := hord.entries e he
    have hcont := failureContinues_of_fatalEntry h.sound he hphase hstep hname
    simp only [failureContinues, Bool.or_eq_true, beq_iff_eq] at hcont
    exact ⟨step, hstep, hname, hcont⟩

/-- In every state reached from new FlowRuns, a FlowRun of a validated acyclic Flow
that is stored as Succeeded is complete. -/
theorem stored_complete {r : FlowRunReconciler} {P : Policy} {flows : NamespacedName → Flow}
    {w : World} {Q : Pool World Reply} (hflows : P.Unedited flows)
    (hwf : w.store.WF flowRunKind) (hnew : Throughout (fun _ _ status => status = {}) w)
    (hrun : Runs r P ⟨w, []⟩ Q) (k : NamespacedName) (o : FlowRun)
    (ho : Q.world.store.current k = some o)
    (hvalid : validateFlowSpec r.lib (flowOf flows k o.spec).spec = none)
    (hac : (flowOf flows k o.spec).spec.Acyclic) (hphase : o.status.phase = .succeeded) :
    Complete (flowOf flows k o.spec) o.status.steps := by
  let I : NamespacedName → FlowRunSpec → FlowRunStatus → Prop := fun k spec status =>
    Ordered (flowOf flows k spec) (fun _ => True) status.steps ∧
      (validateFlowSpec r.lib (flowOf flows k spec).spec = none →
        (flowOf flows k spec).spec.Acyclic → status.phase = .succeeded →
        Complete (flowOf flows k spec) status.steps)
  have hI : Preserved r P I := by
    intro k spec old new ⟨hord, _⟩ htrans
    refine ⟨ordered_preserved hflows k spec old new hord htrans, fun hvalid hac hphase => ?_⟩
    rw [FlowRunStatus.encode_phase] at hphase
    cases htrans with
    | start _ _ hp | progress _ _ hp => rw [hp] at hphase; cases hphase
    | finish _ hp _ _ _ => rcases hp with hp | hp <;> rw [hp] at hphase <;> cases hphase
    | succeed hflow _ hdone _ _ hsteps =>
      rw [hflows _ _ hflow] at hdone
      rw [FlowRunStatus.encode_steps, hsteps]
      exact (complete_of_exhausted (validateFlowSpec_valid hvalid) hac hord hdone).encode
  have hinit : Throughout I w := by
    intro k o ho
    have hstatus : o.status = {} := hnew k o ho
    refine ⟨by rw [hstatus]; exact ordered_nil, fun _ _ hp => ?_⟩
    rw [hstatus] at hp
    cases hp
  exact ((Runs.underway hI hwf hinit hrun).1.2 k o ho).2 hvalid hac hphase

def chainThird : Call :=
  chainScript.call plainReconciler ⟨"default", "chain-1"⟩ chainSecond.after

theorem stored_complete_chain :
    ∃ o, chainThird.after.store.current ⟨"default", "chain-1"⟩ = some o ∧
      o.status.phase = .succeeded ∧ Complete chainFlow o.status.steps := by
  have hphase : (chainThird.after.store.current ⟨"default", "chain-1"⟩).map
      (fun o => o.status.phase) = some .succeeded := by decide +kernel
  obtain ⟨o, ho, hp⟩ := Option.map_eq_some_iff.mp hphase
  have hhist : History plainReconciler (.ofFlow .none chainFlow) (.single chainRun 0)
      [chainFirst, chainSecond, chainThird] chainThird.after :=
    Script.history_call chainScript_within (Script.history_call chainScript_within
      (Script.history_call chainScript_within (.nil _)))
  have hac : chainFlow.spec.Acyclic :=
    FlowSpec.acyclic_of_rank (fun name => if name = "first" then 0 else 1) (by decide)
  have hvalid : validateFlowSpec plainReconciler.lib chainFlow.spec = none := by decide +kernel
  exact ⟨o, ho, hp, stored_complete (ofFlow_unedited _ _) (World.single_wf rfl) (throughout_single rfl)
    hhist.runs _ o ho hvalid hac hp⟩

def cyclicFlow : Flow :=
  ⟨{ steps :=
      [{ name := "first", runAfter := ["second"]
         action := { type := .transform, transform := some ⟨[]⟩ } },
       { name := "second", runAfter := ["first"]
         action := { type := .transform, transform := some ⟨[]⟩ } }] }⟩

def cyclicCall : Call :=
  { chainScript with flows := fun _ => .ok cyclicFlow }.call plainReconciler
    ⟨"default", "chain-1"⟩ (.single chainRun 0)

/-- The Flow is accepted, and its FlowRun succeeds without having run a step. -/
theorem cyclic_flow_succeeds :
    validateFlowSpec plainReconciler.lib cyclicFlow.spec = none ∧
      History plainReconciler (.ofFlow .none cyclicFlow) (.single chainRun 0) [cyclicCall]
        cyclicCall.after ∧
      ∃ o, cyclicCall.after.store.current ⟨"default", "chain-1"⟩ = some o ∧
        o.status.phase = .succeeded ∧ ¬ Complete cyclicFlow o.status.steps := by
  have hstored : (cyclicCall.after.store.current ⟨"default", "chain-1"⟩).map
      (fun o => (o.status.phase, o.status.steps)) = some (.succeeded, []) := by decide +kernel
  obtain ⟨o, ho, heq⟩ := Option.map_eq_some_iff.mp hstored
  obtain ⟨hphase, hsteps⟩ := Prod.mk.inj heq
  refine ⟨by decide +kernel, Script.history_call ⟨rfl, fun _ => rfl, fun _ h => by cases h⟩ (.nil _),
    o, ho, hphase, fun hcomplete => ?_⟩
  obtain ⟨e, he, _⟩ := hcomplete.ended _ (List.mem_cons_self)
  rw [hsteps] at he
  cases he

end KubeZap
