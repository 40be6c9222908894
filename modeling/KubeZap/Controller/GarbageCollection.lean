import KubeZap.Controller.Requests

/-! # Garbage collection of ended FlowRuns

`reconcileGC` deletes a FlowRun whose time to live is over and enforces the count
limits of its Trigger. Nothing here writes an object: a FlowRun is deleted or
left as it is.
-/

namespace KubeZap

open Foundation
open Foundation.Versioned (WriteError)

/-- `trigger.Spec.FlowRunGC` of the Trigger named by a FlowRun's label; a Trigger
that cannot be read counts as one without a policy. -/
def readGCPolicy (flowRun : FlowRun) : Reconciler (Option FlowRunGCPolicy) :=
  match flowRun.metadata.labels.lookup labelTrigger with
  | none => pure none
  | some triggerName =>
    if triggerName = "" then pure none
    else do
      match ← send (.getTrigger ⟨flowRun.metadata.name.namespace_, triggerName⟩) with
      | .error _ => pure none
      | .ok policy => pure policy

def retained (flowRun : FlowRun) : Bool :=
  flowRun.metadata.annotations.lookup retainAnnotation == some annotationValueTrue

/-- The order of `sort.Slice`: oldest completion first, none before any. -/
def completedBefore (a b : FlowRun) : Bool :=
  match a.status.completionTime, b.status.completionTime with
  | none, _ => true
  | some _, none => false
  | some ta, some tb => ta ≤ tb

def deleteIgnoringNotFound (flowRun : FlowRun) : Reconciler (Except ApiError Unit) := do
  match ← send (.delete flowRun) with
  | .ok _ => pure (.ok ())
  | .error .notFound => pure (.ok ())
  | .error e => pure (.error (.write e))

def deleteAll : List FlowRun → Reconciler (Except ApiError Unit)
  | [] => pure (.ok ())
  | fr :: rest => do
      match ← deleteIgnoringNotFound fr with
      | .error e => pure (.error e)
      | .ok _ => deleteAll rest

def enforceMaxFlowRunsByPhase (triggerName namespace_ : String) (phase : FlowRunPhase)
    (max : Int) : Reconciler (Except ApiError Unit) := do
  match ← send (.listFlowRuns (some namespace_)
      [(labelTrigger, triggerName), (labelPhase, phase.text)]) with
  | .error e => pure (.error (.read e))
  | .ok items =>
    let matching := items.filter fun fr => fr.status.phase == phase && !retained fr
    -- `int32(len(matching))`
    let count := wrapInt32 matching.length
    if count ≤ max then pure (.ok ())
    else
      let toDelete := wrapInt32 (count - max)
      deleteAll ((matching.mergeSort completedBefore).take toDelete.toNat)

def enforceMax (triggerName namespace_ : String) (phase : FlowRunPhase) (max : Option Int) :
    Reconciler (Except ApiError Unit) :=
  match max with
  | none => pure (.ok ())
  | some max => enforceMaxFlowRunsByPhase triggerName namespace_ phase max

def enforceFlowRunGCPolicy (triggerName namespace_ : String) (policy : FlowRunGCPolicy) :
    Reconciler (Except ApiError Unit) := do
  match ← enforceMax triggerName namespace_ .succeeded policy.maxSucceeded with
  | .error e => pure (.error e)
  | .ok _ => enforceMax triggerName namespace_ .failed policy.maxFailed

/-- Per-FlowRun spec over per-Trigger policy over operator flag. -/
def gcTTL (r : FlowRunReconciler) (flowRun : FlowRun) (policy : Option FlowRunGCPolicy) : Duration :=
  let operator := if flowRun.status.phase = .failed then r.ttlFailed else r.ttlSucceeded
  let perTrigger : Option Duration := policy.bind fun gc =>
    match flowRun.status.phase with
    | .succeeded => gc.ttlAfterSucceeded
    | .failed => gc.ttlAfterFailed
    | _ => none
  flowRun.spec.ttlAfterFinished.getD (perTrigger.getD operator)

def expire (r : FlowRunReconciler) (flowRun : FlowRun) (policy : Option FlowRunGCPolicy) :
    Reconciler (Except ApiError Duration) :=
  let ttl := gcTTL r flowRun policy
  if ttl = 0 then pure (.ok 0)
  else
    match flowRun.status.completionTime with
    | none => pure (.ok 0)
    | some completionTime => do
        let now ← send .now
        let expiry := completionTime + ttl
        if now < expiry then pure (.ok (expiry - now))
        else
          match ← deleteIgnoringNotFound flowRun with
          | .error e => pure (.error e)
          | .ok _ => pure (.ok 0)

def enforceTriggerPolicy (flowRun : FlowRun) (policy : Option FlowRunGCPolicy) :
    Reconciler (Except ApiError Unit) :=
  match policy with
  | none => pure (.ok ())
  | some policy =>
    enforceFlowRunGCPolicy ((flowRun.metadata.labels.lookup labelTrigger).getD "")
      flowRun.metadata.name.namespace_ policy

def reconcileGC (r : FlowRunReconciler) (flowRun : FlowRun) :
    Reconciler (Except ApiError Duration) :=
  if retained flowRun then pure (.ok 0)
  else do
    let policy ← readGCPolicy flowRun
    match ← enforceTriggerPolicy flowRun policy with
    | .error e => pure (.error e)
    | .ok _ => do
        -- the Trigger is read a second time for its time to live
        let policy ← readGCPolicy flowRun
        expire r flowRun policy

end KubeZap
