import KubeZap.Foundation.Keyed
import KubeZap.Api.Types

/-! # Step statuses of a FlowRun

Lookup and update of `Status.Steps`, and the readiness tests of the FlowRun
controller over it. Seen through `findStepStatus` a status list is a finite map
from step names, and an upsert changes one name.
-/

namespace KubeZap

open Foundation

def findStepStatus (statuses : List StepRunStatus) (name : String) : Option StepRunStatus :=
  Keyed.find StepRunStatus.name statuses name

def upsertStepStatus (statuses : List StepRunStatus) (s : StepRunStatus) : List StepRunStatus :=
  Keyed.upsert StepRunStatus.name statuses s

def findFlowStep (steps : List FlowStep) (name : String) : Option FlowStep :=
  Keyed.find FlowStep.name steps name

/-- `dependenciesMet` for one entry of `runAfter`. -/
def dependencyMet (statuses : List StepRunStatus) (allSteps : List FlowStep)
    (failurePolicyContinue : Bool) (dep : String) : Bool :=
  match findStepStatus statuses dep with
  | none => false
  | some s =>
    match s.phase with
    | .succeeded | .skipped => true
    | .failed =>
      -- the flow continues past failures, or the failed step itself opted into it
      failurePolicyContinue ||
        match findFlowStep allSteps dep with
        | some depStep => depStep.onFailure == .continuing
        | none => false
    | .empty | .pending | .running | .waiting => false

def dependenciesMet (step : FlowStep) (statuses : List StepRunStatus) (allSteps : List FlowStep)
    (failurePolicyContinue : Bool) : Bool :=
  step.runAfter.all (dependencyMet statuses allSteps failurePolicyContinue)

def allDepsSkipped (step : FlowStep) (statuses : List StepRunStatus) : Bool :=
  !step.runAfter.isEmpty && step.runAfter.all fun dep =>
    match findStepStatus statuses dep with
    | some s => s.phase == .skipped
    | none => false

/-- `existing != nil && existing.Phase != "" && existing.Phase != Pending` -/
def processed (statuses : List StepRunStatus) (name : String) : Bool :=
  match findStepStatus statuses name with
  | some s => !s.phase.unstarted
  | none => false

/-- `step.OnFailure == Continue || flow.Spec.FailurePolicy == Continue` -/
def failureContinues (spec : FlowSpec) (step : FlowStep) : Bool :=
  step.onFailure == .continuing || spec.failurePolicy == .continuing

variable {statuses : List StepRunStatus} {name : String} {s : StepRunStatus}

theorem name_of_findStepStatus (h : findStepStatus statuses name = some s) : s.name = name :=
  Keyed.key_of_find h

theorem mem_of_findStepStatus (h : findStepStatus statuses name = some s) : s ∈ statuses :=
  Keyed.mem_of_find h

theorem findStepStatus_encode (statuses : List StepRunStatus) (name : String) :
    findStepStatus (statuses.map StepRunStatus.encode) name =
      (findStepStatus statuses name).map StepRunStatus.encode :=
  Keyed.find_map StepRunStatus.encode_name name

variable {step : FlowStep}

theorem processed_eq_false :
    processed statuses name = false ↔
      ∀ s, findStepStatus statuses name = some s → s.phase.unstarted = true := by
  unfold processed
  cases h : findStepStatus statuses name with
  | none | some => simp

theorem dependencyMet_iff {allSteps : List FlowStep} {failurePolicyContinue : Bool} {dep : String} :
    dependencyMet statuses allSteps failurePolicyContinue dep = true ↔
      ∃ s, findStepStatus statuses dep = some s ∧
        (s.phase = .succeeded ∨ s.phase = .skipped ∨
          s.phase = .failed ∧ (failurePolicyContinue = true ∨
            ∃ depStep, findFlowStep allSteps dep = some depStep ∧
              depStep.onFailure = .continuing)) := by
  unfold dependencyMet
  cases hs : findStepStatus statuses dep with
  | none => simp
  | some s =>
    cases hp : s.phase <;> simp [hp]
    cases hd : findFlowStep allSteps dep <;> simp

theorem dependenciesMet_iff {allSteps : List FlowStep} {failurePolicyContinue : Bool} :
    dependenciesMet step statuses allSteps failurePolicyContinue = true ↔
      ∀ dep ∈ step.runAfter, dependencyMet statuses allSteps failurePolicyContinue dep = true := by
  simp [dependenciesMet]

theorem allDepsSkipped_iff :
    allDepsSkipped step statuses = true ↔
      step.runAfter ≠ [] ∧ ∀ dep ∈ step.runAfter,
        ∃ s, findStepStatus statuses dep = some s ∧ s.phase = .skipped := by
  simp only [allDepsSkipped, Bool.and_eq_true, Bool.not_eq_true', List.isEmpty_eq_false_iff,
    ne_eq, List.all_eq_true]
  refine and_congr_right fun _ => forall₂_congr fun dep _ => ?_
  cases findStepStatus statuses dep <;> simp

/-- Every entry of `xs` is still there in `ys`, and one that was terminal has kept
its phase and results. -/
def KeepsTerminal (xs ys : List StepRunStatus) : Prop :=
  ∀ (i : Nat) s, xs[i]? = some s → ∃ s', ys[i]? = some s' ∧ s'.name = s.name ∧
    (s.phase.terminal = true → s'.phase = s.phase ∧ s'.results = s.results)

theorem KeepsTerminal.refl (xs : List StepRunStatus) : KeepsTerminal xs xs :=
  fun _ s h => ⟨s, h, rfl, fun _ => ⟨rfl, rfl⟩⟩

variable {xs ys : List StepRunStatus}

theorem KeepsTerminal.trans {zs : List StepRunStatus} (h₁ : KeepsTerminal xs ys)
    (h₂ : KeepsTerminal ys zs) : KeepsTerminal xs zs := by
  intro i s hs
  obtain ⟨s₁, hs₁, hn₁, ht₁⟩ := h₁ i s hs
  obtain ⟨s₂, hs₂, hn₂, ht₂⟩ := h₂ i s₁ hs₁
  refine ⟨s₂, hs₂, hn₂.trans hn₁, fun ht => ?_⟩
  obtain ⟨hp₁, hr₁⟩ := ht₁ ht
  obtain ⟨hp₂, hr₂⟩ := ht₂ (by rw [hp₁]; exact ht)
  exact ⟨hp₂.trans hp₁, hr₂.trans hr₁⟩

theorem KeepsTerminal.encode (xs : List StepRunStatus) :
    KeepsTerminal xs (xs.map StepRunStatus.encode) := by
  intro i s hs
  exact ⟨s.encode, by rw [List.getElem?_map, hs]; rfl, rfl, fun _ => ⟨rfl, rfl⟩⟩

theorem KeepsTerminal.first (h : KeepsTerminal xs ys) {i : Nat} (hi : xs[i]? = some s)
    (hname : s.name = name) (hmin : ∀ j < i, ∀ y, ys[j]? = some y → y.name ≠ name) :
    findStepStatus xs name = some s := by
  refine Keyed.find_eq_some_iff.mpr ⟨hname, i, hi, fun j hj y hy => ?_⟩
  obtain ⟨y', hy', hyn, _⟩ := h j y hy
  rw [← hyn]
  exact hmin j hj y' hy'

theorem KeepsTerminal.upsert (hkeep : KeepsTerminal xs ys) {new : StepRunStatus}
    (h : ∀ s, findStepStatus xs new.name = some s → s.phase.terminal = false) :
    KeepsTerminal xs (upsertStepStatus ys new) := by
  intro i s hs
  obtain ⟨s', hs', hname, hterm⟩ := hkeep i s hs
  rcases @Keyed.getElem?_upsert _ _ _ StepRunStatus.name ys new s' i hs' with
    hsame | ⟨hkey, hmin, hnew⟩
  · exact ⟨s', hsame, hname, hterm⟩
  · refine ⟨new, hnew, hkey.symm.trans hname, fun ht => ?_⟩
    have hfind := hkeep.first hs (hname.symm.trans hkey) hmin
    rw [h s hfind] at ht
    cases ht

theorem KeepsTerminal.upsert_of_unprocessed {new : StepRunStatus}
    (h : processed xs new.name = false) : KeepsTerminal xs (upsertStepStatus xs new) :=
  (KeepsTerminal.refl xs).upsert fun s hs =>
    StepPhase.unstarted_not_terminal (processed_eq_false.mp h s hs)

theorem KeepsTerminal.find (h : KeepsTerminal xs ys) (hs : findStepStatus xs name = some s)
    (ht : s.phase.terminal = true) :
    ∃ s', findStepStatus ys name = some s' ∧ s'.phase = s.phase ∧ s'.results = s.results := by
  obtain ⟨hname, i, hi, hmin⟩ := Keyed.find_eq_some_iff.mp hs
  obtain ⟨s', hi', hname', hkeep⟩ := h i s hi
  refine ⟨s', Keyed.find_eq_some_iff.mpr ⟨hname'.trans hname, i, hi', ?_⟩, hkeep ht⟩
  -- an earlier entry kept its name, so it is not the one looked for either
  intro j hj y hy
  have hjlen : j < xs.length := Nat.lt_trans hj (List.getElem?_eq_some_iff.mp hi).1
  obtain ⟨y', hy', hyn, _⟩ := h j xs[j] (List.getElem?_eq_getElem hjlen)
  rw [hy] at hy'
  cases hy'
  rw [hyn]
  exact hmin j hj _ (List.getElem?_eq_getElem hjlen)

end KubeZap
