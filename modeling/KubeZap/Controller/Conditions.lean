import KubeZap.Controller.ExecuteStep

/-! # Parameters and conditions

`resolveFlowParams` and `evaluateWhen`: what a Reconcile call computes from the
FlowRun before it dispatches a step. Both are pure. A compiled CEL program is
cached under its expression; compiling again gives the same program, so the cache
is not represented.
-/

namespace KubeZap

def resultsToMap (results : List ResultValue) : StringMap String :=
  results.foldl (fun m r => StringMap.set m r.name r.value) []

/-- `stepResults`, rebuilt at the start of every call. -/
def rebuildStepResults (statuses : List StepRunStatus) : StringMap (StringMap String) :=
  statuses.foldl (fun m ss =>
    if (ss.phase = .succeeded ∨ ss.phase = .skipped) ∧ ss.results ≠ [] then
      StringMap.set m ss.name (resultsToMap ss.results)
    else m) []

/-- One declared parameter: supplied, else a top-level body field, else its default. -/
def resolveFlowParam (lib : GoLib) (supplied : StringMap String)
    (bodyFields : List (String × BodyValue)) (env : TemplateEnv) (decl : ParamDeclaration) :
    Except String String :=
  match supplied.lookup decl.name with
  | some raw => .ok (substituteVars lib raw env)
  | none =>
    match bodyFields.lookup decl.name with
    | some v => .ok (resolveBodyPath lib [] v)
    | none =>
      if decl.default ≠ "" then .ok decl.default
      else if decl.required then
        .error ("required parameter " ++ lib.quote decl.name ++
          " not supplied and has no default")
      else .ok ""

def resolveFlowParams (lib : GoLib) (paramDecls : List ParamDeclaration)
    (flowRunParams : List ParamValue) (stepResults : StringMap (StringMap String))
    (triggerData : Option TriggerData) : Except String (StringMap String) :=
  -- the last value supplied under a name wins
  let supplied := (flowRunParams.map fun pv => (pv.name, pv.value)).reverse
  let bodyFields := match parseTriggerBody lib triggerData with
    | some (.object fields) => fields
    | _ => []
  paramDecls.foldlM (fun resolved decl => do
    let value ← resolveFlowParam lib supplied bodyFields ⟨stepResults, triggerData, []⟩ decl
    pure (StringMap.set resolved decl.name value)) []

def triggerActivation (lib : GoLib) (triggerData : Option TriggerData) : StringMap BodyValue :=
  match triggerData with
  | none =>
    [("body", .string ""), ("bodyFields", .object []), ("topic", .string ""),
      ("partition", .string "0"), ("offset", .string "0"), ("key", .string ""),
      ("keyEncoding", .string ""), ("scheduledTime", .string ""), ("headers", .object [])]
  | some td =>
    [("body", .string td.body),
      ("bodyFields", (parseTriggerBody lib triggerData).getD (.object [])),
      ("topic", .string td.topic), ("partition", .string (toString td.partition)),
      ("offset", .string (toString td.offset)), ("key", .string td.key),
      ("keyEncoding", .string td.keyEncoding),
      ("scheduledTime", .string ((td.scheduledTime.map lib.rfc3339).getD "")),
      ("headers", .object (td.headers.map fun e => (e.1, .string e.2)))]

/-- The `steps` variable: hyphens in step names become underscores. -/
def stepsActivation (stepResults : StringMap (StringMap String))
    (stepStatuses : List StepRunStatus) : StringMap (StringMap String × StepPhase) :=
  let fromResults : StringMap (StringMap String × StepPhase) :=
    stepResults.foldl (fun m e => StringMap.set m (underscored e.1) (e.2, .empty)) []
  stepStatuses.foldl (fun m ss =>
    let name := underscored ss.name
    StringMap.set m name (((m.lookup name).map Prod.fst).getD [], ss.phase)) fromResults

def evaluateExpressions (cel : Cel) (activation : Activation) :
    List WhenExpression → Except String Bool
  | [] => .ok true
  | expr :: rest =>
    match cel expr.expression activation with
    | .compileError msg => .error ("CEL compile error: " ++ msg)
    | .programError msg => .error ("CEL program error: " ++ msg)
    | .evalError msg => .error ("CEL eval error: " ++ msg)
    | .value text => .error ("CEL expression did not return bool: " ++ text)
    | .bool false => .ok false
    | .bool true => evaluateExpressions cel activation rest

def evaluateWhen (r : FlowRunReconciler) (when : List WhenExpression)
    (stepResults : StringMap (StringMap String)) (stepStatuses : List StepRunStatus)
    (triggerData : Option TriggerData) (params : StringMap String) : Except String Bool :=
  match when with
  | [] => .ok true
  | _ =>
    match r.celEnv with
    | none => .error "CEL environment not initialized"
    | some cel =>
      evaluateExpressions cel
        ⟨triggerActivation r.lib triggerData, stepsActivation stepResults stepStatuses, params⟩
        when

end KubeZap
