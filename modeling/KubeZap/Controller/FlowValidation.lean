import KubeZap.Api.Runtime
import Mathlib.Data.List.Nodup

/-! # Validation of a Flow

`validateFlowSpec` returns the first error it finds. What it establishes is
`FlowSpec.Valid`: the step names are distinct and `runAfter` refers only to steps
of the Flow. It does not look at the order that `runAfter` describes.
-/

namespace KubeZap

def duplicateStepName (lib : GoLib) : List String → List FlowStep → Option String
  | _, [] => none
  | stepNames, step :: rest =>
    if step.name ∈ stepNames then
      some ("duplicate step name " ++ lib.quote step.name ++ ": all step names must be unique")
    else duplicateStepName lib (step.name :: stepNames) rest

def unknownRunAfter (lib : GoLib) (stepNames : List String) (step : FlowStep) : Option String :=
  (step.runAfter.find? (· ∉ stepNames)).map fun dep =>
    "step " ++ lib.quote step.name ++ " has runAfter reference to unknown step " ++ lib.quote dep

def validateAction (lib : GoLib) (step : FlowStep) : Option String :=
  let name := lib.quote step.name
  match step.action.type with
  | .http =>
    match step.action.http with
    | none => some ("step " ++ name ++ " has type=http but action.http is not set")
    | some h =>
      if h.url = "" ∧ h.integrationRef = none then
        some ("step " ++ name ++ " has type=http but action.http.url is empty")
      else none
  | .transform => none
  | .publish =>
    match step.action.publish with
    | none => some ("step " ++ name ++ " has type=publish but action.publish is not set")
    | some p =>
      if p.integrationRef = "" then
        some ("step " ++ name ++
          " has type=publish but action.publish.integrationRef.name is empty")
      else if p.topic = "" then
        some ("step " ++ name ++ " has type=publish but action.publish.topic is empty")
      else none
  | .wait =>
    match step.action.wait with
    | none => some ("step " ++ name ++ " has type=wait but action.wait is not set")
    | some w =>
      if w.duration = "" then
        some ("step " ++ name ++ " has type=wait but action.wait.duration is empty")
      else
        match lib.parseDuration w.duration with
        | .ok _ => none
        | .error err =>
          some ("step " ++ name ++ " has type=wait but action.wait.duration " ++
            lib.quote w.duration ++ " is not a valid Go duration: " ++ err)
  | .other type =>
    some ("step " ++ name ++ " has unknown action type " ++ lib.quote type ++
      ": must be one of http, transform, publish, wait")

def validateStep (lib : GoLib) (stepNames : List String) (step : FlowStep) : Option String :=
  (unknownRunAfter lib stepNames step).or (validateAction lib step)

def validateFlowSpec (lib : GoLib) (spec : FlowSpec) : Option String :=
  if spec.steps.isEmpty then some "spec.steps must contain at least one step"
  else
    (duplicateStepName lib [] spec.steps).or
      (spec.steps.findSome? (validateStep lib (spec.steps.map FlowStep.name)))

/-- Distinct step names, and no reference to a step that is not there. -/
structure FlowSpec.Valid (spec : FlowSpec) : Prop where
  distinct : (spec.steps.map FlowStep.name).Nodup
  known : ∀ step ∈ spec.steps, ∀ dep ∈ step.runAfter, dep ∈ spec.steps.map FlowStep.name

theorem duplicateStepName_eq_none {lib : GoLib} {seen : List String} {steps : List FlowStep} :
    duplicateStepName lib seen steps = none ↔
      (steps.map FlowStep.name).Nodup ∧ ∀ step ∈ steps, step.name ∉ seen := by
  induction steps generalizing seen with
  | nil => simp [duplicateStepName]
  | cons step rest ih =>
    by_cases hmem : step.name ∈ seen
    · simp [duplicateStepName, hmem]
    · have hnew : step.name ∉ rest.map FlowStep.name ↔ ∀ s ∈ rest, s.name ≠ step.name := by
        simp
      rw [duplicateStepName, if_neg hmem, ih, List.map_cons, List.nodup_cons, hnew,
        List.forall_mem_cons]
      simp only [List.mem_cons, not_or, imp_and, forall_and]
      tauto

theorem validateFlowSpec_valid {lib : GoLib} {spec : FlowSpec}
    (h : validateFlowSpec lib spec = none) : spec.Valid := by
  unfold validateFlowSpec at h
  split at h
  · cases h
  · rw [Option.or_eq_none_iff, duplicateStepName_eq_none, List.findSome?_eq_none_iff] at h
    obtain ⟨⟨hnd, _⟩, hsteps⟩ := h
    refine ⟨hnd, fun step hstep => ?_⟩
    simpa [unknownRunAfter] using (Option.or_eq_none_iff.mp (hsteps step hstep)).1

end KubeZap
