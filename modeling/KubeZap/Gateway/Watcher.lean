import KubeZap.Api.Runtime
import KubeZap.Foundation.Program
import KubeZap.Foundation.ReverseIndex
import KubeZap.Gateway.Routes

/-! # Trigger watcher of the webhook gateway

`watcher.go`: the handlers that the Trigger and Secret informers call, as programs
over single operations. An operation is what the source does under one lock or in
one call: an access to the map of Triggers, to the index of Secrets or to the route
registry, or a read from outside the process.
-/

namespace KubeZap

open Foundation Function

/-! ## Reading credentials -/

/-- What `http.DefaultClient` makes of a request for a discovery document. -/
inductive DiscoveryReply
  | badRequest (err : String)
  | unreachable (err : String)
  | refused (statusCode : Int)
  | undecodable (err : String)
  | document (jwksURI : String)

/-- The outcome of `RegisterJWKSURL`. A failed first fetch is an error of its own type. -/
inductive JWKSRegistration
  | registered
  | prewarmError (cause : String)
  | failed (err : String)

inductive BuildReq
  | getSecret (name : NamespacedName)
  | getDiscovery (url : String)
  | registerJWKSURL (url : String)

@[reducible] def BuildReq.Reply : BuildReq → Type
  | .getSecret _ => Except String (StringMap String)
  | .getDiscovery _ => DiscoveryReply
  | .registerJWKSURL _ => JWKSRegistration

abbrev Sources := (q : BuildReq) → q.Reply

abbrev BuildProgram := Program BuildReq BuildReq.Reply

abbrev BuildReq.send (q : BuildReq) : BuildProgram q.Reply := Program.request q

variable (lib : GoLib) (trigger : Trigger)

def readSecretKey (namespace_ name key : String) :
    BuildProgram (Except String String) := do
  match ← BuildReq.send (.getSecret ⟨namespace_, name⟩) with
  | .error err => return .error ("get secret " ++ namespace_ ++ "/" ++ name ++ ": " ++ err)
  | .ok data =>
    match data.lookup key with
    | none =>
      return .error ("secret " ++ namespace_ ++ "/" ++ name ++ " does not contain key " ++
        lib.quote key)
    | some val => return .ok val

def trimRightSlash (s : String) : String := String.ofList (s.toList.rdropWhile (· == '/'))

def discoverJWKSURL (issuer : String) : BuildProgram (Except String String) := do
  let discoveryURL := trimRightSlash issuer ++ "/.well-known/openid-configuration"
  match ← BuildReq.send (.getDiscovery discoveryURL) with
  | .badRequest err => return .error ("building discovery request: " ++ err)
  | .unreachable err =>
    return .error ("fetching OIDC discovery document from " ++ discoveryURL ++ ": " ++ err)
  | .refused statusCode =>
    return .error ("OIDC discovery at " ++ discoveryURL ++ " returned HTTP " ++
      toString statusCode)
  | .undecodable err => return .error ("decoding OIDC discovery document: " ++ err)
  | .document jwksURI =>
    if jwksURI = "" then
      return .error ("OIDC discovery document at " ++ discoveryURL ++ " missing jwks_uri")
    else
      return .ok jwksURI

/-! ## Building a route -/

def orDefault (value fallback : String) : String := if value = "" then fallback else value

def openEntry (webhook : WebhookTrigger) : RouteEntry where
  triggerName := trigger.key.name
  triggerNamespace := trigger.key.namespace_
  flowRef := trigger.spec.flowRef
  flowNamespace := trigger.key.namespace_
  allowedMethod := webhook.method.getD .post
  redactBody := webhook.redactBody
  redactHeaders := webhook.redactHeaders
  maxInvocations := match webhook.rateLimit with
    | none => 0
    | some limit => limit.maxRequests
  cooldownWindow := match webhook.rateLimit with
    | none => 0
    | some limit => if limit.window = 0 then 60 * second else limit.window

/-- Read one key of a Secret of the Trigger's namespace, or fail with `what`. -/
def withSecretKey (name key what : String) (f : String → BuildProgram (Except String RouteEntry)) :
    BuildProgram (Except String RouteEntry) := do
  match ← readSecretKey lib trigger.key.namespace_ name key with
  | .error err => return .error (what ++ ": " ++ err)
  | .ok val => f val

/-- The entry of `trigger`, whose webhook configuration is `webhook`. -/
def buildRouteEntry (webhook : WebhookTrigger) : BuildProgram (Except String RouteEntry) :=
  let entry := openEntry trigger webhook
  match webhook.auth with
  | none => return .ok entry
  | some auth =>
    let entry := { entry with authType := auth.type }
    match auth.type with
    | none => return .ok entry
    | some .hmac =>
      match auth.hmac with
      | none => return .error "hmac auth requires hmac config"
      | some cfg =>
        withSecretKey lib trigger cfg.secretRef.name cfg.secretRef.key
          "reading HMAC secret" fun val =>
          return .ok { entry with
            hmacSecret := val
            hmacProvider := some (cfg.provider.getD .github)
            hmacTimestampToleranceSec :=
              if cfg.timestampToleranceSeconds ≤ 0 then 300
              else cfg.timestampToleranceSeconds }
    | some .bearer =>
      match auth.bearer with
      | none => return .error "bearer auth requires bearer config"
      | some cfg =>
        withSecretKey lib trigger cfg.tokenSecretRef.name cfg.tokenSecretRef.key
          "reading bearer token secret" fun val =>
          return .ok { entry with bearerToken := val }
    | some .apiKey =>
      match auth.apiKey with
      | none => return .error "apiKey auth requires apiKey config"
      | some cfg =>
        withSecretKey lib trigger cfg.secretRef.name cfg.secretRef.key
          "reading API key secret" fun val =>
          return .ok { entry with
            apiKey := val
            apiKeyHeader := orDefault cfg.header "X-Api-Key" }
    | some .basic =>
      match auth.basic with
      | none => return .error "basic auth requires basic.secretRef"
      | some cfg =>
        withSecretKey lib trigger cfg.secretRef (orDefault cfg.usernameKey "username")
          "reading Basic auth username from secret" fun username =>
        withSecretKey lib trigger cfg.secretRef (orDefault cfg.passwordKey "password")
          "reading Basic auth password from secret" fun password =>
          return .ok { entry with basicUsername := username, basicPassword := password }
    | some .ipAllowlist =>
      match auth.ipAllowlist with
      | none => return .ok entry
      | some cfg => return .ok { entry with ipAllowlist := cfg.cidrs }
    | some .oidc =>
      match auth.oidc with
      | none => return .error "oidc auth requires oidc config"
      | some cfg => do
          match ← discoverJWKSURL cfg.issuer with
          | .error err => return .error ("discovering OIDC JWKS URL: " ++ err)
          | .ok jwksURL =>
            let entry := { entry with
              oidcValidator := some ⟨jwksURL, cfg.issuer, cfg.audience⟩ }
            match ← BuildReq.send (.registerJWKSURL jwksURL) with
            -- A cold cache does not keep the route from being registered.
            | .registered | .prewarmError _ => return .ok entry
            | .failed err =>
              return .error ("registering OIDC JWKS URL: registering JWKS URL " ++
                jwksURL ++ ": " ++ err)
    | some .headerEquals =>
      match auth.headerEquals with
      | none => return .error "header-equals auth requires headerEquals config"
      | some cfg =>
        withSecretKey lib trigger cfg.secretRef.name cfg.secretRef.key
          "reading header-equals secret" fun val =>
          return .ok { entry with
            headerEqualsHeader := cfg.header
            headerEqualsValue := val }

def entryRoutePath : String :=
  match trigger.spec.webhook with
  | none => ""
  | some webhook =>
    let path := trimSpace webhook.path
    if path = "" then ""
    else if !startsWith path "/" then "/" ++ path
    else path

/-- The Secrets that the authentication of a webhook Trigger refers to, whether or
not they can be read. -/
def secretRefsForTrigger : List NamespacedName :=
  if trigger.spec.type ≠ .webhook then [] else
  match trigger.spec.webhook.bind (·.auth) with
  | none => []
  | some auth =>
    let secret (name : String) : NamespacedName := ⟨trigger.key.namespace_, name⟩
    match auth.type with
    | some .hmac => (auth.hmac.map fun cfg => secret cfg.secretRef.name).toList
    | some .bearer => (auth.bearer.map fun cfg => secret cfg.tokenSecretRef.name).toList
    | some .apiKey => (auth.apiKey.map fun cfg => secret cfg.secretRef.name).toList
    | some .basic => (auth.basic.map fun cfg => secret cfg.secretRef).toList
    | some .headerEquals => (auth.headerEquals.map fun cfg => secret cfg.secretRef.name).toList
    | some .oidc | some .ipAllowlist | none => []

/-! ## Handlers -/

inductive WatchReq
  | setTrigger (key : NamespacedName) (trigger : Trigger)
  | deleteTrigger (key : NamespacedName)
  | getTrigger (key : NamespacedName)
  | updateIndex (key : NamespacedName) (secrets : List NamespacedName)
  | removeIndex (key : NamespacedName)
  | objectsFor (secret : NamespacedName)
  | read (q : BuildReq)
  | register (path : String) (entry : RouteEntry)
  | deregister (path : String)

@[reducible] def WatchReq.Reply : WatchReq → Type
  | .getTrigger _ => Option Trigger
  | .objectsFor _ => List NamespacedName
  | .read q => q.Reply
  | .setTrigger .. | .deleteTrigger _ | .updateIndex .. | .removeIndex _ | .register ..
  | .deregister _ => Unit

abbrev WatchProgram := Program WatchReq WatchReq.Reply

abbrev WatchReq.send (q : WatchReq) : WatchProgram q.Reply := Program.request q

def Trigger.servedWebhook : Option WebhookTrigger :=
  if trigger.spec.type = .webhook ∧ trigger.spec.enabled = true then trigger.spec.webhook else none

def handleTrigger : WatchProgram Unit := do
  WatchReq.send (.setTrigger trigger.key trigger)
  WatchReq.send (.updateIndex trigger.key (secretRefsForTrigger trigger))
  match trigger.servedWebhook with
  | some webhook =>
    match ← (buildRouteEntry lib trigger webhook).lift WatchReq.read (fun _ x => x) with
    | .error _ => return ()
    | .ok entry => WatchReq.send (.register (entryRoutePath trigger) entry)
  | none => WatchReq.send (.deregister (entryRoutePath trigger))

/-- The Triggers that depend on a Secret, in the order the index gave them. -/
def reprocess (lib : GoLib) : List NamespacedName → WatchProgram Unit
  | [] => return ()
  | triggerKey :: affected => do
      match ← WatchReq.send (.getTrigger triggerKey) with
      | none => reprocess lib affected
      | some trigger =>
        handleTrigger lib trigger
        reprocess lib affected

def handleSecretChange (secretKey : NamespacedName) : WatchProgram Unit := do
  let affected ← WatchReq.send (.objectsFor secretKey)
  reprocess lib affected

def handleDelete : WatchProgram Unit := do
  WatchReq.send (.deleteTrigger trigger.key)
  WatchReq.send (.removeIndex trigger.key)
  WatchReq.send (.deregister (entryRoutePath trigger))

/-! ## The process they run in -/

/-- The shared state of the handlers, and what the reads answer at this moment. -/
structure WatcherState where
  triggers : NamespacedName → Option Trigger
  secretIndex : ReverseIndex NamespacedName NamespacedName
  registry : RouteRegistry
  sources : Sources

def WatcherState.start (sources : Sources) : WatcherState :=
  ⟨fun _ => none, .empty, .new, sources⟩

/-- Every operation is a function of the state, except that the index gives the
objects of a Secret in any order. -/
def WatchReq.env : Env WatcherState WatchReq.Reply
  | w, .setTrigger key trigger, _, w' =>
    w' = { w with triggers := update w.triggers key (some trigger) }
  | w, .deleteTrigger key, _, w' => w' = { w with triggers := update w.triggers key none }
  | w, .getTrigger key, x, w' => x = w.triggers key ∧ w' = w
  | w, .updateIndex key secrets, _, w' =>
    w' = { w with secretIndex := w.secretIndex.update key secrets }
  | w, .removeIndex key, _, w' => w' = { w with secretIndex := w.secretIndex.remove key }
  | w, .objectsFor secret, x, w' => x.Perm (w.secretIndex.byKey secret) ∧ w' = w
  | w, .read q, x, w' => x = w.sources q ∧ w' = w
  | w, .register path entry, _, w' => w' = { w with registry := w.registry.register path entry }
  | w, .deregister path, _, w' => w' = { w with registry := w.registry.deregister path }

/-! ## What a handler does when nothing interferes -/

/-- The route that a Trigger would get now: `none` if it is not to be served. -/
def Trigger.build (sources : Sources) (trigger : Trigger) : Option (Except String RouteEntry) :=
  trigger.servedWebhook.map fun webhook =>
    ((buildRouteEntry lib trigger webhook).replay sources).2

theorem withSecretKey_ok {lib : GoLib} {trigger : Trigger} {name key what : String}
    {f : String → BuildProgram (Except String RouteEntry)} {entry : RouteEntry}
    (h : (withSecretKey lib trigger name key what f).Returns (.ok entry)) :
    ∃ val, (f val).Returns (.ok entry) := by
  obtain ⟨result, -, hf⟩ := Program.returns_bind.mp h
  cases result with
  | error err => cases hf
  | ok val => exact ⟨val, hf⟩

theorem buildRouteEntry_trigger {lib : GoLib} {trigger : Trigger} {webhook : WebhookTrigger}
    {entry : RouteEntry} (h : (buildRouteEntry lib trigger webhook).Returns (.ok entry)) :
    entry.trigger = trigger.key := by
  unfold buildRouteEntry at h
  cases hauth : webhook.auth with
  | none =>
    simp only [hauth] at h
    cases h
    rfl
  | some auth =>
    simp only [hauth] at h
    cases htype : auth.type with
    | none =>
      simp only [htype] at h
      cases h
      rfl
    | some type =>
      cases type with
      | hmac | bearer | apiKey | headerEquals =>
        simp only [htype] at h
        split at h
        · cases h
        · obtain ⟨val, hval⟩ := withSecretKey_ok h
          cases hval
          rfl
      | basic =>
        simp only [htype] at h
        split at h
        · cases h
        · obtain ⟨username, husername⟩ := withSecretKey_ok h
          obtain ⟨password, hpassword⟩ := withSecretKey_ok husername
          cases hpassword
          rfl
      | ipAllowlist =>
        simp only [htype] at h
        split at h <;> cases h <;> rfl
      | oidc =>
        simp only [htype] at h
        split at h
        · cases h
        · obtain ⟨discovered, -, hrest⟩ := Program.returns_bind.mp h
          cases discovered with
          | error err => cases hrest
          | ok jwksURL =>
            obtain ⟨registration, hresult⟩ := hrest
            cases registration <;> cases hresult <;> rfl

theorem build_trigger {lib : GoLib} {sources : Sources} {trigger : Trigger} {entry : RouteEntry}
    (h : trigger.build lib sources = some (.ok entry)) : entry.trigger = trigger.key := by
  obtain ⟨webhook, -, hbuilt⟩ := Option.map_eq_some_iff.mp h
  exact buildRouteEntry_trigger (hbuilt ▸ Program.replay_returns sources _)

/-- The registry after a Trigger was handled whose build gave `built`. -/
def RouteRegistry.install (r : RouteRegistry) (path : String) :
    Option (Except String RouteEntry) → RouteRegistry
  | some (.ok entry) => r.register path entry
  | some (.error _) => r
  | none => r.deregister path

namespace WatcherState

def handled (lib : GoLib) (w : WatcherState) (trigger : Trigger) : WatcherState where
  triggers := update w.triggers trigger.key (some trigger)
  secretIndex := w.secretIndex.update trigger.key (secretRefsForTrigger trigger)
  registry := w.registry.install (entryRoutePath trigger) (trigger.build lib w.sources)
  sources := w.sources

def deleted (w : WatcherState) (trigger : Trigger) : WatcherState where
  triggers := update w.triggers trigger.key none
  secretIndex := w.secretIndex.remove trigger.key
  registry := w.registry.deregister (entryRoutePath trigger)
  sources := w.sources

def replayed (lib : GoLib) (w : WatcherState) (key : NamespacedName) : WatcherState :=
  match w.triggers key with
  | none => w
  | some trigger => w.handled lib trigger

end WatcherState

variable {w w' : WatcherState}

theorem completes_build {lib : GoLib} {trigger : Trigger} {webhook : WebhookTrigger}
    {r : Except String RouteEntry} :
    Completes WatchReq.env w ((buildRouteEntry lib trigger webhook).lift WatchReq.read (fun _ x => x)) w' r ↔
      w' = w ∧ r = ((buildRouteEntry lib trigger webhook).replay w.sources).2 :=
  completes_lift (f := WatchReq.read) (s := w.sources) (fun _ _ _ => Iff.rfl)
    (fun q => ⟨w.sources q, rfl⟩)

theorem completes_handleTrigger {lib : GoLib} {trigger : Trigger} {u : Unit} :
    Completes WatchReq.env w (handleTrigger lib trigger) w' u ↔ w' = w.handled lib trigger := by
  simp only [handleTrigger, completes_request, WatchReq.env]
  cases hs : trigger.servedWebhook with
  | none => simp [WatcherState.handled, Trigger.build, hs, RouteRegistry.install, Program.request,
      WatchReq.env]
  | some webhook =>
    simp only [completes_bind, completes_build]
    cases hb : ((buildRouteEntry lib trigger webhook).replay w.sources).2 with
    | error e => simp [WatcherState.handled, Trigger.build, hs, hb, RouteRegistry.install]
    | ok entry => simp [WatcherState.handled, Trigger.build, hs, hb, RouteRegistry.install,
        Program.request, WatchReq.env]

theorem completes_handleDelete {trigger : Trigger} {u : Unit} :
    Completes WatchReq.env w (handleDelete trigger) w' u ↔ w' = w.deleted trigger := by
  simp [handleDelete, WatchReq.env, WatcherState.deleted, Program.request]

theorem completes_reprocess {lib : GoLib} {affected : List NamespacedName} {u : Unit} :
    Completes WatchReq.env w (reprocess lib affected) w' u ↔
      w' = affected.foldl (WatcherState.replayed lib) w := by
  induction affected generalizing w with
  | nil => simp [reprocess]
  | cons key affected ih =>
    simp only [reprocess, completes_request, WatchReq.env, List.foldl_cons,
      WatcherState.replayed]
    cases hk : w.triggers key with
    | none => simp [ih]
    | some trigger => simp [completes_bind, completes_handleTrigger, ih]

theorem completes_handleSecretChange {lib : GoLib} {secretKey : NamespacedName} {u : Unit} :
    Completes WatchReq.env w (handleSecretChange lib secretKey) w' u ↔
      ∃ affected : List NamespacedName, affected.Perm (w.secretIndex.byKey secretKey) ∧
        w' = affected.foldl (WatcherState.replayed lib) w := by
  simp [handleSecretChange, WatchReq.env, completes_reprocess, and_assoc]

end KubeZap
