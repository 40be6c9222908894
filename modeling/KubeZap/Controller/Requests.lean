import KubeZap.Foundation.Versioned
import KubeZap.Controller.StepOutcome
import KubeZap.Controller.StepStatus
import KubeZap.Controller.Conditions

/-! # What the FlowRun controller asks of the API server

The requests of the reconciler and of its startup scan, the object a write leaves
in the controller's memory, and the two-write sequence that ends a FlowRun. The
steps of a wave run in goroutines that share nothing they write, so each is one
request whose reply is what `executeStep` returned.
-/

namespace KubeZap

open Foundation
open Foundation.Versioned (WriteError)

def retainAnnotation : String := "kubezap.io/retain"
def cancelAnnotation : String := "kubezap.io/cancel"
def executingFinalizer : String := "kubezap.io/executing"
def annotationValueTrue : String := "true"
def labelTrigger : String := "kubezap.io/trigger"
def labelPhase : String := "kubezap.io/phase"
def executorTransportBackoff : Duration := 5 * second

/-- What a goroutine of the wave learns: the return of `executeStep` and how long it took. -/
structure StepReturn where
  result : Except Err StepRunStatus
  duration : Duration
deriving DecidableEq

inductive Req
  | now
  | getFlowRun (key : NamespacedName)
  /-- all namespaces when none is given -/
  | listFlowRuns (namespace_ : Option String) (matchingLabels : StringMap String)
  | update (flowRun : FlowRun)
  | updateStatus (flowRun : FlowRun)
  | delete (flowRun : FlowRun)
  | getFlow (key : NamespacedName)
  | getTrigger (key : NamespacedName)
  | executeStep (call : StepCall)

/-- A Trigger is read for its `spec.flowRunGC` only. -/
@[reducible] def Reply : Req → Type
  | .now => Time
  | .getFlowRun _ => Except ReadError FlowRun
  | .listFlowRuns _ _ => Except ReadError (List FlowRun)
  | .update _ => Except WriteError FlowRun
  | .updateStatus _ => Except WriteError FlowRun
  | .delete _ => Except WriteError Unit
  | .getFlow _ => Except ReadError Flow
  | .getTrigger _ => Except ReadError (Option FlowRunGCPolicy)
  | .executeStep _ => StepReturn

abbrev Reconciler := Program Req Reply

def send (q : Req) : Reconciler (Reply q) := Program.request q

inductive ApiError
  | read (e : ReadError)
  | write (e : WriteError)
deriving DecidableEq

structure Result where
  requeue : Bool := false
  requeueAfter : Duration := 0
  err : Option ApiError := none
deriving DecidableEq

/-- `apimeta.SetStatusCondition`: the transition time of a condition that already
holds is kept. -/
def setStatusCondition (conditions : List Condition) (c : Condition) : List Condition :=
  match conditions with
  | [] => [c]
  | old :: rest =>
    if old.type = c.type then { c with lastTransitionTime := old.lastTransitionTime } :: rest
    else old :: setStatusCondition rest c

def setFlowRunCondition (flowRun : FlowRun) (c : Condition) : FlowRun :=
  { flowRun with status := { flowRun.status with
      conditions := setStatusCondition flowRun.status.conditions c
      observedGeneration := flowRun.metadata.generation } }

/-- `duration.Milliseconds()` -/
def milliseconds (d : Duration) : Int := d.tdiv 1000000

/-- `d.Truncate(time.Second)` -/
def truncateSecond (d : Duration) : Duration := d - d.tmod second

def FlowRun.setSteps (flowRun : FlowRun) (steps : List StepRunStatus) : FlowRun :=
  { flowRun with status := { flowRun.status with steps := steps } }

def FlowRun.upsertStep (flowRun : FlowRun) (s : StepRunStatus) : FlowRun :=
  flowRun.setSteps (upsertStepStatus flowRun.status.steps s)

def FlowRun.start (flowRun : FlowRun) (now : Time) : FlowRun :=
  setFlowRunCondition
    { flowRun with status := { flowRun.status with phase := .running, startTime := some now } }
    ⟨"Running", "FlowRunRunning", "FlowRun is running", now⟩

def FlowRun.addFinalizer (flowRun : FlowRun) : FlowRun :=
  { flowRun with metadata := { flowRun.metadata with
      finalizers := flowRun.metadata.finalizers ++ [executingFinalizer] } }

def FlowRun.removeFinalizer (flowRun : FlowRun) : FlowRun :=
  { flowRun with metadata := { flowRun.metadata with
      finalizers := flowRun.metadata.finalizers.filter (· ≠ executingFinalizer) } }

def FlowRun.setPhaseLabel (flowRun : FlowRun) (phase : FlowRunPhase) : FlowRun :=
  { flowRun with metadata := { flowRun.metadata with
      labels := flowRun.metadata.labels.set labelPhase phase.text } }

/-- The status that `finishFlowRun` writes; `since` is a later reading of the clock. -/
def FlowRun.finish (flowRun : FlowRun) (phase : FlowRunPhase) (reason msg : String)
    (now since : Time) : FlowRun :=
  let flowRun := flowRun.setPhaseLabel phase
  let flowRun := setFlowRunCondition
    { flowRun with status := { flowRun.status with
        phase := phase, completionTime := some now, message := msg } }
    ⟨phase.text, reason, msg, now⟩
  match flowRun.status.startTime with
  | none => flowRun
  | some start =>
    { flowRun with status := { flowRun.status with
        durationMillis := some (milliseconds (since - start)) } }

def FlowRun.succeed (flowRun : FlowRun) (now since : Time) : FlowRun :=
  let flowRun := setFlowRunCondition
    { flowRun with status := { flowRun.status with
        phase := .succeeded, completionTime := some now } }
    ⟨"Succeeded", "FlowRunSucceeded", "FlowRun completed successfully", now⟩
  match flowRun.status.startTime with
  | none => flowRun
  | some start =>
    { flowRun with status := { flowRun.status with
        durationMillis := some (milliseconds (since - start)) } }

/-- `time.Since` of the start time is only read when there is one. -/
def readSince (flowRun : FlowRun) (now : Time) : Reconciler Time :=
  match flowRun.status.startTime with
  | none => pure now
  | some _ => send .now

def writeResult {α : Type} : Except WriteError α → Option ApiError
  | .ok _ => none
  | .error e => some (.write e)

/-- After a write the object in memory is the answer: the client empties the object that it decodes
the answer into. So the label, set before the status write, is not in the metadata written next. -/
def finishFlowRun (flowRun : FlowRun) (phase : FlowRunPhase) (reason msg : String) :
    Reconciler (Option ApiError) := do
  let now ← send .now
  let since ← readSince flowRun now
  let flowRun := flowRun.finish phase reason msg now since
  match ← send (.updateStatus flowRun) with
  | .error e => pure (some (.write e))
  | .ok answer => do
      let reply ← send (.update answer.removeFinalizer)
      pure (writeResult reply)

def failFlowRun (flowRun : FlowRun) (msg : String) : Reconciler (Option ApiError) :=
  finishFlowRun flowRun .failed "FlowRunFailed" msg

def cancelFlowRun (flowRun : FlowRun) (msg : String) : Reconciler (Option ApiError) :=
  finishFlowRun flowRun .cancelled "FlowRunCancelled" msg

def succeedFlowRun (flowRun : FlowRun) : Reconciler (Option ApiError) := do
  let now ← send .now
  let since ← readSince flowRun now
  let flowRun := flowRun.succeed now since
  match ← send (.updateStatus flowRun) with
  | .error e => pure (some (.write e))
  | .ok answer => do
      let reply ← send (.update
        (answer.setPhaseLabel .succeeded).removeFinalizer)
      pure (writeResult reply)

end KubeZap
