import KubeZap.Controller.StepIO

/-! # Executing one step

`executeStep` and the actions it dispatches to, as programs over the requests of
`StepIO`. What the caller relies on is `executeStep_returns`: a step ends
Succeeded or Failed under its own name, and the only error is a transport error
of the executor.
-/

namespace KubeZap

open Foundation

/-- The configuration of the reconciler, with the library functions it is linked to. -/
structure FlowRunReconciler where
  lib : GoLib
  ttlSucceeded : Duration := 0
  ttlFailed : Duration := 0
  executionTimeout : Duration := 0
  /-- `nil` before `SetupWithManager` has run -/
  celEnv : Option Cel := none
  executorBaseURL : String := ""
  /-- whether `ExecutorTLSConfig` is set -/
  executorTLS : Bool := false
  /-- whether `PluginMTLSStore` has a bundle: namespace, Integration -/
  pluginTLS : String → String → Bool := fun _ _ => false

/-- Durations are 64-bit and wrap around. -/
def wrapDuration (d : Duration) : Duration := d.bmod 18446744073709551616

def retryDelay (policy : Option RetryPolicy) (attempt : Nat) : Duration :=
  match policy with
  | none => second
  | some policy =>
    let initial := policy.initialDelay.getD second
    let capped (d : Duration) : Duration := match policy.maxDelay with
      | some maxDelay => if d > maxDelay then maxDelay else d
      | none => d
    match policy.backoffType with
    | .exponential => capped (Nat.repeat (fun d => wrapDuration (d * 2)) (attempt - 1) initial)
    | .linear => capped (wrapDuration (initial * attempt))
    | .fixed => initial

variable (lib : GoLib) (r : FlowRunReconciler) (ctx : Ctx) (step : FlowStep)

/-- The pause before every attempt but the first; the context may end it. -/
def pauseBefore (policy : Option RetryPolicy) (attempt : Nat) : StepProgram (Option CtxErr) :=
  if attempt > 0 then ask (.sleep ctx (retryDelay policy attempt)) else pure none

/-- `int(retryPolicy.MaxRetries) + 1`, as the number of rounds of the retry loop -/
def maxAttempts : Nat :=
  match step.retryPolicy with
  | none => 1
  | some policy => (policy.maxRetries + 1).toNat

/-- The first `n` bytes of a text. The bytes of a character that is cut through are no text, and
`encoding/json` writes each of them as U+FFFD. -/
def cutBytes : List Char → Nat → List Char
  | [], _ => []
  | c :: rest, n =>
    if c.utf8Size ≤ n then c :: cutBytes rest (n - c.utf8Size) else List.replicate n '\uFFFD'

def truncate (s : String) (n : Nat) : String :=
  if s.utf8ByteSize ≤ n then s else String.ofList (cutBytes s.toList n) ++ "..."

/-! ## http -/

def extractSimpleJSONPath (path : String) (obj : List (String × BodyValue)) : String :=
  match obj.lookup (String.ofList (trimPrefix path.toList "$.".toList)) with
  | none => ""
  | some (.string s) => s
  | some val => lib.sprintV val

def callExecutor (namespace_ : String)
    (req : ExecuteRequest) : StepProgram (Except Err ExecuteResponse) := do
  let scheme := if r.executorTLS then "https" else "http"
  let baseURL :=
    if r.executorBaseURL = "" then scheme ++ "://kubezap-http-executor.%s.svc.cluster.local:8091"
    else r.executorBaseURL
  let executorURL := r.lib.replaceAll baseURL "%s" namespace_ ++ "/execute"
  match ← ask (.execute ctx executorURL req) with
  | .unbuilt err => pure (.error (.wrap "building executor HTTP request: " (.text err)))
  | .unsent err =>
    pure (.error (.executorTransportError (.wrap "sending request to executor: " err.err)))
  | .refused statusCode body =>
    pure (.error (.text ("executor returned HTTP " ++ toString statusCode ++ ": " ++ body)))
  | .malformed err => pure (.error (.wrap "decoding executor response: " err.err))
  | .answered resp => pure (.ok resp)

structure HttpReturn where
  results : StringMap String := []
  message : String := ""
  attempts : Int := 0
  err : Option Err := none

def httpResults (h : HTTPAction) (resp : ExecuteResponse) : StringMap String :=
  let results : StringMap String :=
    [("body", resp.body), ("status", toString resp.statusCode)]
  match lib.unmarshal resp.body with
  | some (.object jsonBody) =>
    h.resultMappings.foldl (fun results e =>
      let val := extractSimpleJSONPath lib e.2 jsonBody
      if val = "" then results else StringMap.set results e.1 val) results
  | _ => results

/-- The retry loop of `executeHTTPStep`: rounds left, attempts made, last error. -/
def httpAttempts (r : FlowRunReconciler) (step : FlowStep) (h : HTTPAction) (stepCtx : Ctx)
    (namespace_ displayURL : String) (execReq : ExecuteRequest) :
    Nat → Nat → Option Err → StepProgram HttpReturn
  | 0, attempt, lastErr => pure { attempts := attempt, err := lastErr }
  | rounds + 1, attempt, _ => do
      match ← pauseBefore stepCtx step.retryPolicy attempt with
      | some err => pure { attempts := attempt + 1, err := some err.err }
      | none =>
        match ← callExecutor r stepCtx namespace_ execReq with
        | .error err =>
          if err.isTransport then pure { attempts := attempt + 1, err := some err }
          else
            httpAttempts r step h stepCtx namespace_ displayURL execReq rounds (attempt + 1)
              (some (.wrap ("executor RPC for step " ++ r.lib.quote step.name ++
                " (target: " ++ displayURL ++ "): ") err))
        | .ok resp =>
          if resp.error ≠ "" then
            -- the resolved URL may hold secret values
            let errMsg :=
              if execReq.url ≠ displayURL then
                r.lib.replaceAll resp.error execReq.url displayURL
              else resp.error
            httpAttempts r step h stepCtx namespace_ displayURL execReq rounds (attempt + 1)
              (some (.text errMsg))
          else if 200 ≤ resp.statusCode ∧ resp.statusCode < 300 then
            pure
              { results := httpResults r.lib h resp
                message := "HTTP " ++ toString resp.statusCode
                attempts := attempt + 1 }
          else
            httpAttempts r step h stepCtx namespace_ displayURL execReq rounds (attempt + 1)
              (some (.text ("HTTP " ++ toString resp.statusCode ++ ": " ++
                truncate resp.body 256)))

/-- `FlowStep.Timeout` bounds the whole step. -/
def stepTimeoutCtx : StepProgram Ctx :=
  match step.timeout with
  | none => pure ctx
  | some d =>
    if d > 0 then do
      let now ← ask .now
      pure (ctx.withTimeout now d)
    else pure ctx

/-- Without a `FlowStep.Timeout`, `HTTPAction.TimeoutSeconds` bounds the attempts. -/
def actionTimeoutCtx (timeoutSec : Int) : StepProgram Ctx :=
  if step.timeout = none ∨ step.timeout = some 0 then do
    let now ← ask .now
    pure (ctx.withTimeout now (timeoutSec * second))
  else pure ctx

def integrateHTTP (h : HTTPAction) (namespace_ resolvedURL : String) (headers : StringMap String)
    (env : TemplateEnv) : Fallible (String × StringMap String × HttpTLSMaterial) :=
  match h.integrationRef with
  | none => pure (resolvedURL, headers, {})
  | some ref =>
    if ref = "" then pure (resolvedURL, headers, {})
    else applyHTTPIntegration r.lib ref namespace_ resolvedURL headers env

def guardSSRF (url : String) : Fallible Unit := do
  match ← ask (.checkSSRF url) with
  | some err =>
    throw (.wrap ("step " ++ lib.quote step.name ++ " blocked by SSRF protection: ") (.text err))
  | none => pure ()

/-- Everything `executeHTTPStep` does before its retry loop: the request, the URL
that may be shown, and the context of the attempts. -/
def prepareHTTP (h : HTTPAction) (env : TemplateEnv)
    (namespace_ : String) : Fallible (ExecuteRequest × String × Ctx) := do
  let name := r.lib.quote step.name
  let ctx ← stepTimeoutCtx ctx step
  let url ← wrapping ("resolving secrets in URL for step " ++ name ++ ": ")
    (substituteVarsWithSecrets r.lib namespace_ h.url env)
  let body ← wrapping ("resolving secrets in body for step " ++ name ++ ": ")
    (substituteVarsWithSecrets r.lib namespace_ h.body env)
  let headers ← substituteHeaders r.lib namespace_ env
    (fun k => "resolving secrets in header " ++ r.lib.quote k ++ " for step " ++ name ++ ": ")
    h.headers
  let target ← integrateHTTP r h namespace_ url.1 headers env
  guardSSRF r.lib step target.1
  let method := if h.method = "" then "POST" else h.method
  let timeoutSec := if h.timeoutSeconds ≤ 0 then 30 else h.timeoutSeconds
  let stepCtx ← actionTimeoutCtx ctx step timeoutSec
  let tls := target.2.2
  pure (⟨method, target.1, target.2.1, body.1, timeoutSec, false, tls.caBundle, tls.clientCert,
    tls.clientKey⟩, url.2, stepCtx)

def executeHTTPStep (env : TemplateEnv) (namespace_ : String) : StepProgram HttpReturn :=
  match step.action.http with
  | none =>
    pure { err := some (.text ("step " ++ r.lib.quote step.name ++
      " has type=http but no http spec")) }
  | some h => do
      match ← (prepareHTTP r ctx step h env namespace_).run with
      | .error err => pure { err := some err }
      | .ok (execReq, displayURL, stepCtx) =>
        httpAttempts r step h stepCtx namespace_ displayURL execReq (maxAttempts step) 0 none

/-! ## publish -/

structure PublishReturn where
  results : StringMap String := []
  attempts : Int := 0
  err : Option Err := none

/-- The retry loop of both publish backends around one attempt. -/
def publishAttempts (ctx : Ctx) (policy : Option RetryPolicy)
    (publish : StepProgram (Except Err (StringMap String))) :
    Nat → Nat → Option Err → StepProgram PublishReturn
  | 0, attempt, lastErr => pure { attempts := attempt, err := lastErr }
  | rounds + 1, attempt, _ => do
      match ← pauseBefore ctx policy attempt with
      | some err => pure { attempts := attempt, err := some err.err }
      | none =>
        match ← publish with
        | .ok result => pure { results := result, attempts := attempt + 1 }
        | .error err => publishAttempts ctx policy publish rounds (attempt + 1) (some err)

def pluginPublishIdempotencyKey (uid stepName : String) : String :=
  "kz1-" ++ lib.sha256Hex (uid ++ "\x00" ++ stepName)

def jsonField (body field : String) : String :=
  match lib.unmarshal body with
  | some (.object fields) =>
    match fields.lookup field with
    | some (.string s) => s
    | _ => ""
  | _ => ""

/-- The 30 seconds of one publish, unless the context ends sooner. -/
def publishCtx (timeout : Duration) : StepProgram Ctx :=
  let extended : StepProgram Ctx := do
    let now ← ask .now
    pure (ctx.withTimeout now timeout)
  match ctx.deadline with
  | none => extended
  | some deadline => do
      let now ← ask .now
      if deadline - now > timeout then extended else pure ctx

def doPluginPublish (pluginURL : String) (envelope : PluginPublishEnvelope) (timeout : Duration) :
    StepProgram (Except Err (StringMap String)) := do
  let attemptCtx ← publishCtx ctx timeout
  let url :=
    if r.pluginTLS envelope.namespace_ envelope.integration then
      r.lib.replaceAll pluginURL "http://" "https://"
    else pluginURL
  match ← ask (.pluginPublish attemptCtx url envelope) with
  | .unbuilt err => pure (.error (.wrap "building publish request: " (.text err)))
  | .unsent err => pure (.error (.wrap "publish request failed: " err.err))
  | .answered statusCode body =>
    if statusCode ≥ 400 then
      let failure := jsonField r.lib body "error"
      let text := if failure ≠ "" then failure else r.lib.trimSpace body
      pure (.error (.text ("publish endpoint returned status " ++ toString statusCode ++ ": " ++
        text)))
    else
      let messageId := jsonField r.lib body "messageId"
      pure (.ok (if messageId ≠ "" then [("messageId", messageId)] else []))

def preparePublish (p : PublishAction) (env : TemplateEnv)
    (namespace_ : String) : Fallible (String × StringMap String) := do
  let name := r.lib.quote step.name
  let (body, _) ← wrapping ("resolving secrets in publish body for step " ++ name ++ ": ")
    (substituteVarsWithSecrets r.lib namespace_ p.body env)
  let headers ← substituteHeaders r.lib namespace_ env
    (fun k => "resolving secrets in publish header " ++ r.lib.quote k ++ " for step " ++ name ++
      ": ") p.headers
  pure (body, headers)

def publishVia (p : PublishAction) (env : TemplateEnv) (namespace_ uid : String)
    (integration : Integration) :
    StepProgram PublishReturn := do
  match integration.kafka, integration.plugin with
  | some _, _ =>
    let topic := substituteVars r.lib p.topic env
    match ← (preparePublish r step p env namespace_).run with
    | .error err => pure { err := some err }
    | .ok (body, headers) =>
      publishAttempts ctx step.retryPolicy (ask (.publishToKafka integration topic body headers))
        (maxAttempts step) 0 none
  | none, none =>
    pure { err := some (.text ("integration " ++ r.lib.quote integration.name.name ++
      " is not a plugin type")) }
  | none, some plugin =>
    let port := if plugin.publisherPort = 0 then 8090 else plugin.publisherPort
    let pluginURL := "http://kubezap-plugin-" ++ integration.name.name ++ "." ++ namespace_ ++
      ".svc.cluster.local:" ++ toString port ++ "/publish"
    let destination := substituteVars r.lib p.topic env
    match ← (preparePublish r step p env namespace_).run with
    | .error err => pure { err := some err }
    | .ok (body, headers) =>
      let envelope : PluginPublishEnvelope :=
        ⟨integration.name.name, namespace_, destination, headers, body,
          pluginPublishIdempotencyKey r.lib uid step.name⟩
      publishAttempts ctx step.retryPolicy
        (doPluginPublish r ctx pluginURL envelope (30 * second)) (maxAttempts step) 0 none

def executePublishStep (env : TemplateEnv) (namespace_ uid : String) : StepProgram PublishReturn :=
  let missing : StepProgram PublishReturn :=
    pure { err := some (.text ("step " ++ r.lib.quote step.name ++
      " has type=publish but no integrationRef.name")) }
  match step.action.publish with
  | none => missing
  | some p =>
    if p.integrationRef = "" then missing
    else do
      match ← ask (.getIntegration ⟨namespace_, p.integrationRef⟩) with
      | .error e =>
        pure { err := some (.wrap ("fetching integration " ++ r.lib.quote p.integrationRef ++
          ": ") (.text e.error)) }
      | .ok integration => publishVia r ctx step p env namespace_ uid integration

/-! ## executeStep -/

structure StepCall where
  ctx : Ctx
  step : FlowStep
  namespace_ : String
  uid : String
  env : TemplateEnv
deriving DecidableEq

def mapsToResults (m : StringMap String) : List ResultValue := m.map fun e => ⟨e.1, e.2⟩

/-- `StepActionType` as the source writes it. -/
def StepActionType.text : StepActionType → String
  | .http => "http"
  | .transform => "transform"
  | .publish => "publish"
  | .wait => "wait"
  | .other type => type

def executeStep (c : StepCall) :
    StepProgram (Except Err StepRunStatus) := do
  let step := c.step
  let now ← ask .now
  let status : StepRunStatus :=
    { name := step.name, phase := .running, startTime := some now, attempts := 1 }
  match step.action.type with
  | .http => do
      let ret ← executeHTTPStep r c.ctx step c.env c.namespace_
      let completionTime ← ask .now
      let status := { status with
        completionTime := some completionTime
        attempts := if ret.attempts > 0 then wrapInt32 ret.attempts else status.attempts }
      match ret.err with
      | some err =>
        if err.isTransport then pure (.error err)
        else pure (.ok { status with phase := .failed, message := err.error })
      | none =>
        pure (.ok { status with
          phase := .succeeded, message := ret.message, results := mapsToResults ret.results })
  | .transform => do
      let completionTime ← ask .now
      let status := { status with completionTime := some completionTime }
      match step.action.transform with
      | none =>
        pure (.ok { status with
          phase := .failed
          message := "step " ++ r.lib.quote step.name ++
            " has type=transform but no transform spec" })
      | some t =>
        let substituted := t.mappings.map fun e => (e.1, substituteVars r.lib e.2 c.env)
        pure (.ok { status with phase := .succeeded, results := mapsToResults substituted })
  | .publish => do
      let ret ← executePublishStep r c.ctx step c.env c.namespace_ c.uid
      let completionTime ← ask .now
      let status := { status with
        completionTime := some completionTime
        attempts := if ret.attempts > 0 then wrapInt32 ret.attempts else status.attempts }
      match ret.err with
      | some err => pure (.ok { status with phase := .failed, message := err.error })
      | none =>
        pure (.ok { status with phase := .succeeded, results := mapsToResults ret.results })
  | type => do
      let completionTime ← ask .now
      pure (.ok { status with
        phase := .failed
        completionTime := some completionTime
        message := "unknown step action type: " ++ r.lib.quote type.text })

end KubeZap
