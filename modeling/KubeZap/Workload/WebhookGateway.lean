import KubeZap.Controller.IntegrationGateways
import KubeZap.Workload.Objects

/-! # The webhook gateway of a namespace

`gateway_deployment.go`, and `ensureWebhookGateway` of `trigger_controller.go`: the objects of the
gateway, all of one name, and the programs that create and overwrite them.
-/

namespace KubeZap.Workload

open Foundation

/-! ## The namespace's configuration -/

structure WebhookGatewayTLSSpec where
  serverSecretRef : Option String := none
  clientCASecretRef : Option String := none
  crlConfigMapRef : Option String := none

structure WebhookGatewayHPASpec where
  minReplicas : Option Int := none
  maxReplicas : Option Int := none
  targetCPUUtilization : Option Int := none

/-- `podDisruptionBudget` is the `MinAvailable` of the budget; a budget without it is none. -/
structure WebhookGatewayConfig where
  namespace_ : String
  generation : Int := 1
  tls : Option WebhookGatewayTLSSpec := none
  hpa : Option WebhookGatewayHPASpec := none
  podDisruptionBudget : Option IntOrString := none

structure ConfigCondition where
  status : Bool
  reason : String
  message : String
  observedGeneration : Int := 0

/-- What `ensureWebhookGateway` passes on of the configuration; empty strings are no names. -/
structure WebhookGatewayTLSConfig where
  tlsSecretName : String := ""
  mtlsCASecretName : String := ""
  crlConfigMapName : String := ""

def webhookGatewayTLS (cfg : Option WebhookGatewayConfig) : WebhookGatewayTLSConfig :=
  match cfg.bind (·.tls) with
  | none => {}
  | some tlsSpec =>
    match tlsSpec.serverSecretRef with
    | none => {}
    | some server =>
      match tlsSpec.clientCASecretRef with
      | none => { tlsSecretName := server }
      | some ca =>
        { tlsSecretName := server
          mtlsCASecretName := ca
          crlConfigMapName := tlsSpec.crlConfigMapRef.getD "" }

/-! ## Desired objects -/

def webhookGatewayDeploymentName : String := "kubezap-webhook-gateway"

def webhookGatewayPort : Int := 8080

def webhookGatewayMetricsPort : Int := 9090

def componentWebhookGateway : String := "webhook-gateway"

def webhookGatewayLabels (namespace_ : String) : StringMap String :=
  [("kubezap.io/component", componentWebhookGateway), ("kubezap.io/namespace", namespace_)]

def webhookGatewayImage (environ : Environ) : String :=
  if environ "WEBHOOK_GATEWAY_IMAGE" = "" then "ghcr.io/kubezap/webhook-gateway:latest"
  else environ "WEBHOOK_GATEWAY_IMAGE"

def desiredWebhookGatewayServiceAccount : ServiceAccount where
  metadata := { labels := [("app", webhookGatewayDeploymentName)] }

def desiredWebhookGatewayRole (tlsCfg : WebhookGatewayTLSConfig) : Role where
  rules :=
    [⟨[apiGroupAutomation], ["triggers"], ["get", "list", "watch"]⟩,
      ⟨[apiGroupAutomation], ["flowruns"], ["create"]⟩,
      ⟨[""], ["secrets"], ["get", "list", "watch"]⟩] ++
      if tlsCfg.crlConfigMapName ≠ "" then [⟨[""], ["configmaps"], ["get", "list", "watch"]⟩]
      else []

def desiredWebhookGatewayRoleBinding (namespace_ : String) : RoleBinding where
  roleRef := ⟨apiGroupRBAC, "Role", webhookGatewayDeploymentName⟩
  subjects := [⟨"ServiceAccount", webhookGatewayDeploymentName, namespace_⟩]

def desiredWebhookGatewayHPAFromConfig (namespace_ : String) (cfg : Option WebhookGatewayConfig) :
    HorizontalPodAutoscaler :=
  let hpa := (cfg.bind (·.hpa)).getD {}
  { metadata := { labels := webhookGatewayLabels namespace_ }
    scaleTargetRef := ⟨"apps/v1", "Deployment", webhookGatewayDeploymentName⟩
    minReplicas := some (hpa.minReplicas.getD 1)
    maxReplicas := hpa.maxReplicas.getD 10
    cpuUtilization := hpa.targetCPUUtilization.getD 70 }

def desiredWebhookGatewayPDB (namespace_ : String) (cfg : Option WebhookGatewayConfig) :
    Option PodDisruptionBudget :=
  (cfg.bind (·.podDisruptionBudget)).map fun minAvailable =>
    { metadata := { labels := webhookGatewayLabels namespace_ }
      minAvailable := minAvailable
      selector := webhookGatewayLabels namespace_ }

def desiredWebhookGatewayService (namespace_ : String) (tlsCfg : WebhookGatewayTLSConfig) :
    Service where
  metadata := { labels := webhookGatewayLabels namespace_ }
  spec :=
    { selector := webhookGatewayLabels namespace_
      ports :=
        [⟨if tlsCfg.tlsSecretName ≠ "" then "https" else "http", .tcp, webhookGatewayPort,
            webhookGatewayPort⟩,
          ⟨"metrics", .tcp, webhookGatewayMetricsPort, webhookGatewayMetricsPort⟩] }

/-- The arguments, mounts and volumes for TLS: with a server certificate, and with a CA for clients
besides. -/
def webhookGatewayTLSMounts (tlsCfg : WebhookGatewayTLSConfig) :
    List String × List VolumeMount × List SecretVolume :=
  if tlsCfg.tlsSecretName = "" then ([], [], [])
  else
    let (args, mounts, volumes) : List String × List VolumeMount × List SecretVolume :=
      if tlsCfg.mtlsCASecretName = "" then ([], [], [])
      else
        ("--mtls-ca-file=/etc/webhook-mtls-ca/ca.crt" ::
            if tlsCfg.crlConfigMapName ≠ "" then
              ["--crl-configmap-name=" ++ tlsCfg.crlConfigMapName]
            else [],
          [⟨"webhook-mtls-ca", "/etc/webhook-mtls-ca", true⟩],
          [⟨"webhook-mtls-ca", tlsCfg.mtlsCASecretName, some 0o444⟩])
    (["--tls-cert-file=/etc/webhook-tls/tls.crt", "--tls-key-file=/etc/webhook-tls/tls.key"] ++ args,
      ⟨"webhook-tls", "/etc/webhook-tls", true⟩ :: mounts,
      ⟨"webhook-tls", tlsCfg.tlsSecretName, some 0o444⟩ :: volumes)

def desiredWebhookGatewayDeployment (environ : Environ) (namespace_ : String)
    (tlsCfg : WebhookGatewayTLSConfig) : Deployment :=
  let labels := webhookGatewayLabels namespace_
  let (tlsArgs, volumeMounts, volumes) := webhookGatewayTLSMounts tlsCfg
  let portName := if tlsCfg.tlsSecretName ≠ "" then "https" else "http"
  let probeScheme : URIScheme := if tlsCfg.tlsSecretName ≠ "" then .https else .http
  { metadata := { labels := labels }
    spec :=
      { replicas := some 1
        selector := labels
        templateLabels := labels
        podSpec :=
          { serviceAccountName := webhookGatewayDeploymentName
            securityContext := { runAsNonRoot := true, seccompProfile := some .runtimeDefault }
            volumes := volumes
            containers :=
              [{ name := componentWebhookGateway
                 image := webhookGatewayImage environ
                 imagePullPolicy := some .ifNotPresent
                 args := ["--port=8080", "--namespace=" ++ namespace_] ++ tlsArgs
                 env := ({ name := envVarWatchNamespaces, value := environ envVarWatchNamespaces } ::
                   otelPassthroughEnv environ).map EnvVar.toContainer
                 ports :=
                   [⟨portName, webhookGatewayPort, .tcp⟩,
                     ⟨"metrics", webhookGatewayMetricsPort, .tcp⟩]
                 volumeMounts := volumeMounts
                 securityContext :=
                   { runAsNonRoot := true
                     readOnlyRootFilesystem := true
                     allowPrivilegeEscalation := false
                     dropCapabilities := ["ALL"]
                     seccompProfile := some .runtimeDefault }
                 livenessProbe := some
                   { path := "/healthz"
                     port := webhookGatewayPort
                     scheme := some probeScheme
                     initialDelaySeconds := 5
                     periodSeconds := 10 }
                 readinessProbe := some
                   { path := "/readyz"
                     port := webhookGatewayPort
                     scheme := some probeScheme
                     initialDelaySeconds := 3
                     periodSeconds := 5 } }] } } }

/-! ## Requests -/

/-- What the gateway's programs ask for besides objects. -/
inductive WebhookReq
  | getWebhookGatewayConfig (namespace_ : String)
  | updateConfigStatus (cfg : WebhookGatewayConfig) (condition : ConfigCondition)

@[reducible] def WebhookReq.Reply : WebhookReq → Type
  | .getWebhookGatewayConfig _ => Except ObjectError WebhookGatewayConfig
  | .updateConfigStatus .. => Option String

abbrev WebhookProgram := ControlProgram WebhookReq.Reply

def WebhookReq.send (q : WebhookReq) : WebhookProgram q.Reply :=
  @Program.request _ (ObjectReply WebhookReq.Reply) (.extra q)

def gatewayKey (kind : ResourceKind) (namespace_ : String) : ObjectKey :=
  ⟨kind, ⟨namespace_, webhookGatewayDeploymentName⟩⟩

/-! ## The configuration's status -/

section Status

variable (quote : String → String)

def checkSecret (cfg : WebhookGatewayConfig) (field name : String) (entries : List String)
    (notFound getFailed missing missingText : String) : WebhookProgram (Option ConfigCondition) := do
  match ← getObject ⟨.secret, ⟨cfg.namespace_, name⟩⟩ with
  | .error .notFound =>
    return some
      { status := false
        reason := notFound
        message := "spec.tls." ++ field ++ " " ++ quote name ++ " not found in namespace " ++
          quote cfg.namespace_ ++ "." }
  | .error err =>
    return some
      { status := false
        reason := getFailed
        message := "getting spec.tls." ++ field ++ " " ++ quote name ++ ": " ++
          (ControlError.api err).message }
  | .ok secret =>
    if entries.any fun entry => ((secret : Secret).data.lookup entry).getD "" = "" then
      return some
        { status := false
          reason := missing
          message := "spec.tls." ++ field ++ " " ++ quote name ++ " must contain " ++
            missingText ++ "." }
    else return none

def validateWebhookGatewayConfigTLS (cfg : WebhookGatewayConfig) :
    WebhookProgram ConfigCondition := do
  let resolved : ConfigCondition :=
    { status := true
      reason := "WebhookGatewayConfigReady"
      message := "spec.tls Secret references resolved successfully." }
  match cfg.tls with
  | none =>
    return { status := true
             reason := "NoTLSConfigured"
             message := "spec.tls is not set; the webhook gateway serves plain HTTP." }
  | some tlsSpec =>
    match tlsSpec.serverSecretRef with
    | none => return resolved
    | some server =>
      match ← checkSecret quote cfg "serverSecretRef" server ["tls.crt", "tls.key"]
          "ServerSecretNotFound" "ServerSecretGetFailed" "ServerSecretMissingKeys"
          "both tls.crt and tls.key" with
      | some condition => return condition
      | none =>
        match tlsSpec.clientCASecretRef with
        | none => return resolved
        | some ca =>
          let found ← checkSecret quote cfg "clientCASecretRef" ca ["ca.crt"]
            "ClientCASecretNotFound" "ClientCASecretGetFailed" "ClientCASecretMissingKey"
            "ca.crt"
          return found.getD resolved

def reconcileWebhookGatewayConfigStatus (cfg : WebhookGatewayConfig) : WebhookProgram Unit := do
  let condition ← validateWebhookGatewayConfigTLS quote cfg
  let _ ← WebhookReq.send
    (.updateConfigStatus cfg { condition with observedGeneration := cfg.generation })
  return ()

end Status

/-! ## Creating -/

def getWebhookGatewayConfig (namespace_ : String) :
    WebhookProgram (Except ControlError (Option WebhookGatewayConfig)) := do
  match ← WebhookReq.send (.getWebhookGatewayConfig namespace_) with
  | .ok cfg => return .ok (some cfg)
  | .error .notFound => return .ok none
  | .error err =>
    return .error (.wrap ("getting WebhookGatewayConfig " ++ namespace_ ++ "/default: ") (.api err))

def mutateWebhookGatewayDeployment (desired live : Deployment) : Deployment :=
  let liveReplicas := live.spec.replicas
  let spec := desired.spec
  if liveReplicas.isSome ∧ spec.replicas.isNone then
    { live with spec := { spec with replicas := liveReplicas } }
  else { live with spec := spec }

section Create

variable (util : ControllerUtil WebhookReq.Reply)

def reconcileWebhookGatewayPDB (namespace_ : String) (cfg : Option WebhookGatewayConfig) :
    WebhookProgram (Except ControlError Unit) := do
  let key := gatewayKey .podDisruptionBudget namespace_
  match desiredWebhookGatewayPDB namespace_ cfg with
  | none =>
    match ← getObject key with
    | .error .notFound => return .ok ()
    | .error err =>
      return .error (.wrap "getting webhook gateway PodDisruptionBudget: " (.api err))
    | .ok _ =>
      match ← deleteObject key with
      | none | some .notFound => return .ok ()
      | some err =>
        return .error (.wrap "deleting webhook gateway PodDisruptionBudget: " (.api err))
  | some pdb =>
    inContext "failed to create/update gateway PodDisruptionBudget: " <|
      upsert util key { pdb with metadata := {} } fun live =>
        { pdb with metadata := { (live : PodDisruptionBudget).metadata with
          labels := pdb.metadata.labels } }

/-- A new HPA is created, and then the budget is left for the next time. -/
def reconcileWebhookGatewayHPA (namespace_ : String) (cfg : Option WebhookGatewayConfig) :
    WebhookProgram (Except ControlError Unit) := do
  let key := gatewayKey .horizontalPodAutoscaler namespace_
  let desired := desiredWebhookGatewayHPAFromConfig namespace_ cfg
  match ← getObject key with
  | .error .notFound =>
    match ← createObject key desired with
    | none | some .alreadyExists => return .ok ()
    | some err => return .error (.api err)
  | .error err => return .error (.api err)
  | .ok existing =>
    match ← updateObject key
        { (existing : HorizontalPodAutoscaler) with
          minReplicas := desired.minReplicas
          maxReplicas := desired.maxReplicas
          cpuUtilization := desired.cpuUtilization } with
    | some err => return .error (.api err)
    | none => reconcileWebhookGatewayPDB util namespace_ cfg

/-- The five objects that `CreateOrUpdate` is called for. -/
def ensureWebhookGatewayObjects (environ : Environ) (namespace_ : String)
    (tlsCfg : WebhookGatewayTLSConfig) : WebhookProgram (Except ControlError Unit) :=
  let sa := desiredWebhookGatewayServiceAccount
  let role := desiredWebhookGatewayRole tlsCfg
  let rb := desiredWebhookGatewayRoleBinding namespace_
  let svc := desiredWebhookGatewayService namespace_ tlsCfg
  let desired := desiredWebhookGatewayDeployment environ namespace_ tlsCfg
  (inContext "failed to create/update gateway ServiceAccount: " <|
    upsert util (gatewayKey .serviceAccount namespace_) sa fun live =>
      { (live : ServiceAccount) with metadata := { (live : ServiceAccount).metadata with
        labels := sa.metadata.labels } }).tryThen fun _ =>
  (inContext "failed to create/update gateway Role: " <|
    upsert util (gatewayKey .role namespace_) role fun live =>
      { (live : Role) with rules := role.rules }).tryThen fun _ =>
  (inContext "failed to create/update gateway RoleBinding: " <|
    upsert util (gatewayKey .roleBinding namespace_) rb fun live =>
      { (live : RoleBinding) with roleRef := rb.roleRef, subjects := rb.subjects }).tryThen fun _ =>
  (inContext "failed to create/update gateway Service: " <|
    upsert util (gatewayKey .service namespace_) svc fun live =>
      { metadata := { (live : Service).metadata with labels := svc.metadata.labels }
        spec := svc.spec }).tryThen fun _ =>
  inContext "failed to create/update gateway Deployment: " <|
    upsert util (gatewayKey .deployment namespace_) desired (mutateWebhookGatewayDeployment desired)

def ensureWebhookGateway (quote : String → String) (environ : Environ) (namespace_ : String) :
    WebhookProgram (Except ControlError Unit) :=
  (getWebhookGatewayConfig namespace_).tryThen fun cfg => do
    match cfg with
    | some cfg => reconcileWebhookGatewayConfigStatus quote cfg
    | none => pure ()
    (ensureWebhookGatewayObjects util environ namespace_ (webhookGatewayTLS cfg)).tryThen fun _ =>
      reconcileWebhookGatewayHPA util namespace_ cfg

end Create

/-! ## The cluster -/

abbrev GatewayWorld := ObjectWorld ObjectKey.Object (String → Option WebhookGatewayConfig)

def WebhookReq.env : Env GatewayWorld WebhookReq.Reply
  | w, .getWebhookGatewayConfig namespace_, x, w' => w' = w ∧
      match x with
      | .ok cfg => w.rest namespace_ = some cfg
      | .error .notFound => w.rest namespace_ = none
      | .error _ => True
  | w, .updateConfigStatus .., _, w' => w' = w

def GatewayWorld.env (server : ApiServer) :
    Env GatewayWorld (@ObjectReply _ ObjectKey.Object _ WebhookReq.Reply) :=
  ObjectServed server.admitted WebhookReq.env

end KubeZap.Workload
