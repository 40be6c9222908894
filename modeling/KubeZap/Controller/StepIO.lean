import KubeZap.Foundation.Program
import KubeZap.Api.Integration
import KubeZap.Controller.Template

/-! # What a step reads and calls

The requests a step makes while it executes, and the helpers that make them. A
context is represented by its deadline: which of its replies an expired context
produces is up to whoever answers the requests. The Integration cache of one
Reconcile call is not represented, since a cached answer is one the API server
gave.
-/

namespace KubeZap

open Foundation

structure Ctx where
  deadline : Option Time := none
deriving DecidableEq

/-- `context.WithTimeout`, at the instant `now` -/
def Ctx.withTimeout (ctx : Ctx) (now : Time) (timeout : Duration) : Ctx :=
  match ctx.deadline with
  | none => ⟨some (now + timeout)⟩
  | some t => ⟨some (min t (now + timeout))⟩

inductive CtxErr
  | deadlineExceeded
  | canceled
deriving DecidableEq

def CtxErr.err : CtxErr → Err
  | .deadlineExceeded => .deadlineExceeded
  | .canceled => .canceled

/-- An error of the network stack, with the context error it wraps. -/
structure NetErr where
  text : String
  ctxErr : Option CtxErr := none

def NetErr.err (e : NetErr) : Err :=
  match e.ctxErr with
  | none => .text e.text
  | some c => .wrap e.text c.err

structure ExecuteResponse where
  statusCode : Int
  body : String
  error : String := ""

inductive ExecutorReply
  /-- `http.NewRequestWithContext` failed. -/
  | unbuilt (err : String)
  /-- `Client.Do` returned an error. -/
  | unsent (err : NetErr)
  /-- A status other than 200, with the start of its body. -/
  | refused (statusCode : Int) (body : String)
  /-- The body could not be decoded. -/
  | malformed (err : NetErr)
  | answered (resp : ExecuteResponse)

structure PluginPublishEnvelope where
  integration : String
  namespace_ : String
  destination : String
  headers : StringMap String
  body : String
  idempotencyKey : String
deriving DecidableEq

inductive PluginReply
  | unbuilt (err : String)
  | unsent (err : NetErr)
  | answered (statusCode : Int) (body : String)

inductive IoReq
  | now
  | getSecret (key : NamespacedName)
  | getConfigMap (key : NamespacedName)
  | getIntegration (key : NamespacedName)
  | checkSSRF (url : String)
  | execute (ctx : Ctx) (executorURL : String) (req : ExecuteRequest)
  /-- `select` on the context and a timer: the context's error, if it was done first. -/
  | sleep (ctx : Ctx) (delay : Duration)
  | publishToKafka (integration : Integration) (topic body : String) (headers : StringMap String)
  | pluginPublish (ctx : Ctx) (url : String) (envelope : PluginPublishEnvelope)
deriving DecidableEq

@[reducible] def IoReply : IoReq → Type
  | .now => Time
  | .getSecret _ => Except ReadError (StringMap String)
  | .getConfigMap _ => Except ReadError (StringMap String)
  | .getIntegration _ => Except ReadError Integration
  | .checkSSRF _ => Option String
  | .execute _ _ _ => ExecutorReply
  | .sleep _ _ => Option CtxErr
  | .publishToKafka _ _ _ _ => Except Err (StringMap String)
  | .pluginPublish _ _ _ => PluginReply

abbrev StepProgram := Program IoReq IoReply

def ask (q : IoReq) : StepProgram (IoReply q) := Program.request q

abbrev Fallible := ExceptT Err StepProgram

section Reads

variable (lib : GoLib)

def keyOf (kind : String) (ref : KeySelector) :
    Except ReadError (StringMap String) → Except Err String
  | .error e =>
    .error (.wrap (kind ++ " " ++ lib.quote ref.name ++ " not found: ") (.text e.error))
  | .ok data =>
    match data.lookup ref.key with
    | none => .error (.text ("key " ++ lib.quote ref.key ++ " not found in " ++ kind ++ " " ++
        lib.quote ref.name))
    | some val => .ok val

def fetchSecretValue (namespace_ : String) (ref : KeySelector) : StepProgram (Except Err String) := do
  let reply ← ask (.getSecret ⟨namespace_, ref.name⟩)
  pure (keyOf lib "secret" ref reply)

def fetchConfigMapValue (namespace_ : String) (ref : KeySelector) :
    StepProgram (Except Err String) := do
  let reply ← ask (.getConfigMap ⟨namespace_, ref.name⟩)
  pure (keyOf lib "configmap" ref reply)

/-- `fmt.Errorf(msg + "%w", err)` around a program that may fail -/
def wrapping {α : Type} (msg : String) (p : StepProgram (Except Err α)) : Fallible α :=
  ExceptT.mk do
    let r ← p
    pure (r.mapError (.wrap msg))

def substituteVarsWithSecrets (namespace_ s : String) (env : TemplateEnv) :
    StepProgram (Except Err (String × String)) := do
  let r ← interpolateTemplate lib s env
    (some fun name key => fetchSecretValue lib namespace_ ⟨name, key⟩)
  match r.err with
  | some e => pure (.error e)
  | none => pure (.ok (r.actual, r.display))

/-- The header maps of http and publish steps; `place` names the header in an error. -/
def substituteHeaders (namespace_ : String) (env : TemplateEnv) (place : String → String) :
    StringMap String → Fallible (StringMap String)
  | [] => pure []
  | (k, v) :: rest => do
      let (actual, _) ← wrapping (place k) (substituteVarsWithSecrets lib namespace_ v env)
      let headers ← substituteHeaders namespace_ env place rest
      pure ((k, actual) :: headers)

structure HttpTLSMaterial where
  caBundle : String := ""
  clientCert : String := ""
  clientKey : String := ""

/-- One of the secrets of an Integration's `auth`. -/
def fetchAuth (integrationName namespace_ what : String) (ref : KeySelector) : Fallible String :=
  wrapping ("fetching " ++ what ++ " for integration " ++ lib.quote integrationName ++ ": ")
    (fetchSecretValue lib namespace_ ref)

def applyHTTPAuth (auth : HttpAuthSpec) (integrationName namespace_ resolvedURL : String)
    (headers : StringMap String) : Fallible (String × StringMap String) :=
  match auth.type, auth.bearer, auth.basic, auth.apiKey, auth.secretURL with
  | .bearer, some ref, _, _, _ => do
      let token ← fetchAuth lib integrationName namespace_ "bearer token" ref
      pure (resolvedURL, headers.set "Authorization" ("Bearer " ++ token))
  | .basic, _, some basic, _, _ => do
      let username ← fetchAuth lib integrationName namespace_ "basic auth username"
        basic.usernameSecretRef
      let password ← fetchAuth lib integrationName namespace_ "basic auth password"
        basic.passwordSecretRef
      pure (resolvedURL, headers.set "Authorization"
        ("Basic " ++ lib.base64 (username ++ ":" ++ password)))
  | .apiKey, _, _, some key, _ => do
      let apiKey ← fetchAuth lib integrationName namespace_ "api key" key.valueSecretRef
      pure (resolvedURL, headers.set key.headerName apiKey)
  | .secretURL, _, _, _, some ref => do
      let secretURL ← fetchAuth lib integrationName namespace_ "secret URL" ref
      pure (secretURL, headers)
  | _, _, _, _, _ => pure (resolvedURL, headers)

/-- The client certificate and key of a `kubernetes.io/tls` Secret. -/
def clientCertOf (secretName integrationName : String) :
    Except ReadError (StringMap String) → Except Err (String × String)
  | .error e =>
    .error (.wrap ("fetching client cert secret " ++ lib.quote secretName ++
      " for integration " ++ lib.quote integrationName ++ ": ") (.text e.error))
  | .ok data =>
    let missing (key : String) : Except Err (String × String) :=
      .error (.text ("key " ++ lib.quote key ++ " not found in client cert secret " ++
        lib.quote secretName ++ " for integration " ++ lib.quote integrationName))
    match data.lookup "tls.crt", data.lookup "tls.key" with
    | none, _ => missing "tls.crt"
    | some _, none => missing "tls.key"
    | some cert, some key => .ok (cert, key)

def fetchCABundle (tlsSpec : HttpTLSSpec) (integrationName namespace_ : String) : Fallible String :=
  match tlsSpec.caBundleConfigMapRef with
  | none => pure ""
  | some ref =>
    wrapping ("fetching CA bundle for integration " ++ lib.quote integrationName ++ ": ")
      (fetchConfigMapValue lib namespace_ ref)

def fetchClientCert (tlsSpec : HttpTLSSpec) (integrationName namespace_ : String) :
    Fallible (String × String) :=
  match tlsSpec.clientCertSecretRef with
  | none => pure ("", "")
  | some secretName => do
      let reply ← ask (.getSecret ⟨namespace_, secretName⟩)
      ExceptT.mk (pure (clientCertOf lib secretName integrationName reply))

def resolveHTTPTLS (tlsSpec : HttpTLSSpec) (integrationName namespace_ : String) :
    Fallible HttpTLSMaterial := do
  let caBundle ← fetchCABundle lib tlsSpec integrationName namespace_
  let pair ← fetchClientCert lib tlsSpec integrationName namespace_
  pure ⟨caBundle, pair.1, pair.2⟩

/-- `strings.TrimRight(base, "/") + "/" + strings.TrimLeft(path, "/")` -/
def joinURL (base path : String) : String :=
  String.ofList ((base.toList.reverse.dropWhile (· = '/')).reverse ++ ['/'] ++
    path.toList.dropWhile (· = '/'))

def absoluteURL (url : String) : Bool :=
  "http://".toList.isPrefixOf url.toList || "https://".toList.isPrefixOf url.toList

/-- `defaultHeaders` fill in what the step does not set. -/
def withDefaultHeaders (httpInteg : HttpIntegrationSpec) (headers : StringMap String)
    (env : TemplateEnv) : StringMap String :=
  httpInteg.defaultHeaders.foldl (fun hs e =>
    if (hs.lookup e.1).isSome then hs else hs.set e.1 (substituteVars lib e.2 env)) headers

/-- `baseUrl` is prepended to a path. -/
def withBaseURL (httpInteg : HttpIntegrationSpec) (resolvedURL : String) : String :=
  if httpInteg.baseURL ≠ "" ∧ absoluteURL resolvedURL = false then
    joinURL httpInteg.baseURL resolvedURL
  else resolvedURL

/-- The part of `applyHTTPIntegration` after the Integration was read. -/
def applyHTTPSpec (httpInteg : HttpIntegrationSpec) (integrationName namespace_ resolvedURL : String)
    (headers : StringMap String) (env : TemplateEnv) :
    Fallible (String × StringMap String × HttpTLSMaterial) := do
  let headers := withDefaultHeaders lib httpInteg headers env
  let resolvedURL := withBaseURL httpInteg resolvedURL
  let authed ← httpInteg.auth.elim (pure (resolvedURL, headers)) fun auth =>
    applyHTTPAuth lib auth integrationName namespace_ resolvedURL headers
  let material ← httpInteg.tls.elim (pure {}) fun tlsSpec =>
    resolveHTTPTLS lib tlsSpec integrationName namespace_
  pure (authed.1, authed.2, material)

def applyHTTPIntegration (integrationName namespace_ resolvedURL : String)
    (headers : StringMap String) (env : TemplateEnv) :
    Fallible (String × StringMap String × HttpTLSMaterial) := do
  match ← ask (.getIntegration ⟨namespace_, integrationName⟩) with
  | .error e =>
    throw (.wrap ("fetching http integration " ++ lib.quote integrationName ++ ": ")
      (.text e.error))
  | .ok integration =>
    match integration.http with
    | none => pure (resolvedURL, headers, {})
    | some httpInteg =>
      applyHTTPSpec lib httpInteg integrationName namespace_ resolvedURL headers env

end Reads

end KubeZap
