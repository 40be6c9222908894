import KubeZap.Controller.GarbageCollection

/-! # FlowRunReconciler.Reconcile

One call of `Reconcile` as a program: it reads the FlowRun, and then cancels it,
collects it, or dispatches one wave of its steps. Loops of the source are
recursions over the list they iterate; an early `return` inside a loop is an
`Except.error` with the result.
-/

namespace KubeZap

open Foundation
open Foundation.Versioned (WriteError)

structure Dispatch where
  flow : Flow
  stepResults : StringMap (StringMap String)
  params : StringMap String

def ended (p : Reconciler (Option ApiError)) : Reconciler Result := do
  let err ← p
  pure { err := err }

/-! ## Immediate transitions -/

inductive InlineVerdict
  | pass
  | skip (message : String)
  | fail (err : String)

variable (r : FlowRunReconciler) (flow : Flow) (statuses : List StepRunStatus)

def inlineVerdict (d : Dispatch) (flowRun : FlowRun) (step : FlowStep) : InlineVerdict :=
  let statuses := flowRun.status.steps
  let failurePolicyContinue := d.flow.spec.failurePolicy == .continuing
  if dependenciesMet step statuses d.flow.spec.steps failurePolicyContinue = false then .pass
  else if processed statuses step.name then .pass
  else if allDepsSkipped step statuses then .skip "all runAfter dependencies were skipped"
  else if step.when.isEmpty then .pass
  else
    match evaluateWhen r step.when d.stepResults statuses flowRun.spec.triggerData d.params with
    | .error err => .fail err
    | .ok false => .skip "when condition evaluated to false"
    | .ok true => .pass

/-- The loop that skips steps and fails those whose condition cannot be evaluated.
Its state is the FlowRun in memory and `skippedAny`. -/
def inlineLoop (r : FlowRunReconciler) (d : Dispatch) :
    List FlowStep → FlowRun → Bool → Reconciler (Except Result (FlowRun × Bool))
  | [], flowRun, skippedAny => pure (.ok (flowRun, skippedAny))
  | step :: rest, flowRun, skippedAny =>
    match inlineVerdict r d flowRun step with
    | .pass => inlineLoop r d rest flowRun skippedAny
    | .skip message => do
        let now ← send .now
        let flowRun := flowRun.upsertStep
          { name := step.name, phase := .skipped, message := message, completionTime := some now }
        inlineLoop r d rest flowRun true
    | .fail err => do
        let now ← send .now
        let flowRun := flowRun.upsertStep
          { name := step.name, phase := .failed, message := "when expression error: " ++ err
            completionTime := some now }
        match ← send (.updateStatus flowRun) with
        | .error e => pure (.error { err := some (.write e) })
        | .ok answer =>
          let flowRun := answer
          if failureContinues d.flow.spec step then inlineLoop r d rest flowRun true
          else do
            let err ← failFlowRun flowRun
              ("step " ++ r.lib.quote step.name ++ " when expression error: " ++ err)
            pure (.error { err := err })

/-! ## The wave -/

/-- Ready and not started, or a wait step to be looked at again. -/
def inWave (step : FlowStep) : Bool :=
  dependenciesMet step statuses flow.spec.steps (flow.spec.failurePolicy == .continuing) &&
    (!processed statuses step.name ||
      (step.action.type == .wait &&
        match findStepStatus statuses step.name with
        | some existing => existing.phase == .waiting
        | none => false))

def collectWave : List FlowStep :=
  flow.spec.steps.filter (inWave flow statuses)

def stepTerminal (name : String) : Bool :=
  match findStepStatus statuses name with
  | some existing => existing.phase.terminal
  | none => false

def stepActive (name : String) : Bool :=
  match findStepStatus statuses name with
  | some existing => existing.phase == .running || existing.phase == .waiting
  | none => false

def allTerminal : Bool :=
  flow.spec.steps.all fun step => stepTerminal statuses step.name

def anyRunning : Bool :=
  flow.spec.steps.any fun step => stepActive statuses step.name

/-- `executeWaitStep`: the status it fills in, and how long is left to wait. -/
def executeWaitStep (lib : GoLib) (flowRun : FlowRun) (step : FlowStep) (ss : StepRunStatus) :
    Reconciler (Except String (StepRunStatus × Duration)) :=
  match step.action.wait with
  | none => pure (.error ("wait step " ++ lib.quote step.name ++ " has no wait config"))
  | some w =>
    match lib.parseDuration w.duration with
    | .error err =>
      pure (.error ("wait step " ++ lib.quote step.name ++ ": invalid duration " ++
        lib.quote w.duration ++ ": " ++ err))
    | .ok duration =>
      match (findStepStatus flowRun.status.steps step.name).bind (·.resumeAfter) with
      | some resumeAfter => do
          let now ← send .now
          if now < resumeAfter then do
            let later ← send .now
            pure (.ok ({ ss with resumeAfter := some resumeAfter, phase := .waiting },
              resumeAfter - later))
          else pure (.ok (ss, 0))
      | none => do
          let now ← send .now
          pure (.ok ({ ss with resumeAfter := some (now + duration), phase := .waiting },
            duration))

def persistAndReturn (flowRun : FlowRun) (result : Result) : Reconciler Result := do
  match ← send (.updateStatus flowRun) with
  | .error e => pure { err := some (.write e) }
  | .ok _ => pure result

/-- Persist a fatal failure, then fail the FlowRun: two writes. -/
def persistAndFail (flowRun : FlowRun) (msg : String) : Reconciler Result := do
  match ← send (.updateStatus flowRun) with
  | .error e => pure { err := some (.write e) }
  | .ok answer => ended (failFlowRun answer msg)

/-- The barrier: a wave with a wait step does nothing else. -/
def runWaitStep (d : Dispatch) (flowRun : FlowRun) (step : FlowStep) :
    Reconciler Result := do
  let now ← send .now
  let startTime := ((findStepStatus flowRun.status.steps step.name).bind (·.startTime)).getD now
  let ss : StepRunStatus := { name := step.name, startTime := some startTime, attempts := 1 }
  match ← executeWaitStep r.lib flowRun step ss with
  | .error err => do
      let completionTime ← send .now
      let flowRun := flowRun.upsertStep
        { ss with phase := .failed, message := err, completionTime := some completionTime }
      if failureContinues d.flow.spec step then persistAndReturn flowRun { requeue := true }
      else persistAndFail flowRun ("step " ++ r.lib.quote step.name ++ " failed: " ++ err)
  | .ok (ss, requeueAfter) =>
    if requeueAfter > 0 then
      persistAndReturn (flowRun.upsertStep ss) { requeueAfter := requeueAfter }
    else do
      let completionTime ← send .now
      persistAndReturn (flowRun.upsertStep
        { ss with phase := .succeeded, completionTime := some completionTime })
        { requeue := true }

/-! ## Executing the wave -/

structure StepResult where
  status : StepRunStatus
  failFatal : Bool := false
  failMsg : String := ""
  duration : Duration
  requeueAfter : Duration := 0

def stepResult (lib : GoLib) (flow : Flow) (step : FlowStep) (ret : StepReturn) : StepResult :=
  match ret.result with
  | .error err =>
    if err.isTransport then
      { status := { name := step.name, phase := .running }, duration := ret.duration
        requeueAfter := executorTransportBackoff }
    else
      { status := { name := step.name, phase := .failed, message := err.error }
        duration := ret.duration }
  | .ok ss =>
    if ss.phase = .failed ∧ failureContinues flow.spec step = false then
      { status := ss, failFatal := true, duration := ret.duration
        failMsg := "step " ++ lib.quote step.name ++ " failed: " ++ ss.message }
    else { status := ss, duration := ret.duration }

/-- The goroutines of a wave; each step keeps its own return. -/
def executeWave (call : FlowStep → StepCall) :
    List FlowStep → Reconciler (List (FlowStep × StepReturn))
  | [] => pure []
  | step :: rest => do
      let ret ← send (.executeStep (call step))
      let outs ← executeWave call rest
      pure ((step, ret) :: outs)

def transportRequeue (results : List StepResult) : Duration :=
  results.foldl (fun d res => if res.requeueAfter > d then res.requeueAfter else d) 0

def StepResult.batched (res : StepResult) : StepRunStatus :=
  if res.status.phase.terminal then
    { res.status with durationMillis := some (milliseconds res.duration) }
  else res.status

def batchStatuses (results : List StepResult) : List StepRunStatus :=
  results.foldl (fun xs res => upsertStepStatus xs res.batched) statuses

/-- The message of the first fatal failure; empty when there is none. -/
def fatalMsg (results : List StepResult) : String :=
  results.foldl (fun msg res => if res.failFatal ∧ msg = "" then res.failMsg else msg) ""

def runWave (d : Dispatch) (flowRun : FlowRun) (execCtx : Ctx)
    (wave : List FlowStep) : Reconciler Result := do
  let call (step : FlowStep) : StepCall :=
    ⟨execCtx, step, flowRun.metadata.name.namespace_, flowRun.metadata.uid,
      ⟨d.stepResults, flowRun.spec.triggerData, d.params⟩⟩
  let outs ← executeWave call wave
  let results := outs.map fun o => stepResult r.lib d.flow o.1 o.2
  let requeue := transportRequeue results
  if requeue > 0 then
    -- no status of this wave is written
    pure { requeueAfter := requeue }
  else
    let flowRun := flowRun.setSteps (batchStatuses flowRun.status.steps results)
    let msg := fatalMsg results
    if msg ≠ "" then persistAndFail flowRun msg
    else persistAndReturn flowRun { requeue := true }

/-! ## Completion -/

def fatalEntry : Option StepRunStatus :=
  statuses.find? fun ss =>
    ss.phase == .failed && flow.spec.steps.any fun step =>
      step.name == ss.name && !failureContinues flow.spec step

def complete (flowRun : FlowRun) : Reconciler Result :=
  match fatalEntry flow flowRun.status.steps with
  | some ss =>
    ended (failFlowRun flowRun ("step " ++ r.lib.quote ss.name ++ " failed: " ++ ss.message))
  | none => ended (succeedFlowRun flowRun)

/-- After the immediate transitions: requeue, or collect and run the wave. -/
def afterInline (key : NamespacedName) (d : Dispatch) (execCtx : Ctx) (anyRunning : Bool)
    (flowRun : FlowRun) (skippedAny : Bool) : Reconciler Result :=
  if skippedAny then do
    match ← send (.updateStatus flowRun) with
    | .error e => pure { err := some (.write e) }
    | .ok _ => do
        match ← send (.getFlowRun key) with
        | .error (.notFound _) => pure {}
        | .error e => pure { err := some (.read e) }
        | .ok _ => pure { requeue := true }
  else
    match collectWave d.flow flowRun.status.steps with
    | [] =>
      if anyRunning then pure { requeueAfter := 5 * second } else complete r d.flow flowRun
    | wave =>
      match wave.find? (fun step => step.action.type == .wait) with
      | some step => runWaitStep r d flowRun step
      | none => runWave r d flowRun execCtx wave

def dispatch (key : NamespacedName) (d : Dispatch) (execCtx : Ctx)
    (flowRun : FlowRun) : Reconciler Result :=
  let running := anyRunning d.flow flowRun.status.steps
  if allTerminal d.flow flowRun.status.steps then complete r d.flow flowRun
  else do
    match ← inlineLoop r d d.flow.spec.steps flowRun false with
    | .error result => pure result
    | .ok (flowRun, skippedAny) => afterInline r key d execCtx running flowRun skippedAny

/-! ## Reconcile -/

/-- `""` or `Pending` becomes `Running`: finalizer first, then the status. -/
def startFlowRun (flowRun : FlowRun) : Reconciler (Except ApiError FlowRun) := do
  if flowRun.status.phase = .empty ∨ flowRun.status.phase = .pending then
    match ← ensureFinalizer flowRun with
    | .error e => pure (.error e)
    | .ok flowRun => do
        let now ← send .now
        let flowRun := flowRun.start now
        match ← send (.updateStatus flowRun) with
        | .error e => pure (.error (.write e))
        | .ok answer => pure (.ok answer)
  else pure (.ok flowRun)
where
  ensureFinalizer (flowRun : FlowRun) : Reconciler (Except ApiError FlowRun) := do
    if executingFinalizer ∈ flowRun.metadata.finalizers then pure (.ok flowRun)
    else
      match ← send (.update flowRun.addFinalizer) with
      | .error e => pure (.error (.write e))
      | .ok answer => pure (.ok answer)

/-- The flow-level timeout starts anew in every call. -/
def flowTimeoutCtx : Reconciler Ctx :=
  match flow.spec.timeout with
  | none => pure {}
  | some d =>
    if d > 0 then do
      let now ← send .now
      pure (Ctx.withTimeout {} now d)
    else pure {}

/-- How long a FlowRun has been running beyond the operator's execution timeout. -/
def exceededTimeout (flowRun : FlowRun) : Reconciler (Option Duration) :=
  match flowRun.status.startTime with
  | none => pure none
  | some start =>
    if r.executionTimeout > 0 then do
      let now ← send .now
      if now - start > r.executionTimeout then do
        let later ← send .now
        pure (some (later - start))
      else pure none
    else pure none

def runFlow (key : NamespacedName) (flow : Flow) (flowRun : FlowRun) :
    Reconciler Result := do
  let execCtx ← flowTimeoutCtx flow
  match ← exceededTimeout r flowRun with
  | some elapsed =>
    ended (failFlowRun flowRun
      ("execution timeout exceeded (running for " ++ r.lib.durationText (truncateSecond elapsed) ++
        ", limit " ++ r.lib.durationText r.executionTimeout ++ ")"))
  | none =>
    let stepResults := rebuildStepResults flowRun.status.steps
    match resolveFlowParams r.lib flow.spec.params flowRun.spec.params stepResults
      flowRun.spec.triggerData with
    | .error paramErr => ended (failFlowRun flowRun paramErr)
    | .ok params => dispatch r key ⟨flow, stepResults, params⟩ execCtx flowRun

def cancelRequested (flowRun : FlowRun) : Bool :=
  flowRun.metadata.annotations.lookup cancelAnnotation == some annotationValueTrue

/-- `Reconcile` once the FlowRun was read. -/
def reconcileFlowRun (key : NamespacedName) (flowRun : FlowRun) : Reconciler Result :=
  if flowRun.metadata.deletionTimestamp.isSome ∧ flowRun.status.phase = .running then
    ended (cancelFlowRun flowRun "FlowRun deleted while running")
  else if flowRun.status.phase = .running ∧ cancelRequested flowRun then
    ended (cancelFlowRun flowRun "FlowRun cancelled via kubezap.io/cancel annotation")
  else if flowRun.status.phase.terminal then do
    match ← reconcileGC r flowRun with
    | .error e => pure { err := some e }
    | .ok requeue => if requeue > 0 then pure { requeueAfter := requeue } else pure {}
  else do
    match ← send (.getFlow ⟨flowRun.metadata.name.namespace_, flowRun.spec.flowRef⟩) with
    | .error (.notFound _) =>
      ended (failFlowRun flowRun ("Flow not found: " ++ flowRun.spec.flowRef))
    | .error e => pure { err := some (.read e) }
    | .ok flow => do
        match ← startFlowRun flowRun with
        | .error e => pure { err := some e }
        | .ok flowRun => runFlow r key flow flowRun

def reconcile (key : NamespacedName) : Reconciler Result := do
  match ← send (.getFlowRun key) with
  | .error (.notFound _) => pure {}
  | .error e => pure { err := some (.read e) }
  | .ok flowRun => reconcileFlowRun r key flowRun

/-! ## The startup scan -/

/-- One FlowRun of the scan in `Start`; an error is logged and forgotten. -/
def scanFlowRun (fr : FlowRun) : Reconciler Unit :=
  if fr.status.phase ≠ .running then pure ()
  else
    match fr.status.startTime with
    | none => pure ()
    | some start => do
        let now ← send .now
        if now - start ≤ r.executionTimeout then pure ()
        else do
          let later ← send .now
          let _ ← failFlowRun fr
            ("orphaned at startup: running for " ++
              r.lib.durationText (truncateSecond (later - start)) ++
              " (limit " ++ r.lib.durationText r.executionTimeout ++ ")")
          pure ()

def scanFlowRuns (r : FlowRunReconciler) : List FlowRun → Reconciler Unit
  | [] => pure ()
  | fr :: rest => do
      scanFlowRun r fr
      scanFlowRuns r rest

/-- `Start`, up to the point where it waits for the shutdown. -/
def startupScan : Reconciler Unit :=
  if r.executionTimeout > 0 then do
    match ← send (.listFlowRuns none []) with
    | .error _ => pure ()
    | .ok items => scanFlowRuns r items
  else pure ()

end KubeZap
