import KubeZap.Api.Integration

/-! # The gateway of an Integration

`integration_controller.go`: each Integration of a broker type gets a Deployment of its
own, with one replica, in its namespace. What `Reconcile` leaves of it is modelled as
far as the gateway reads it: the arguments and the environment of its container, with
the names around them.
-/

namespace KubeZap

def validateIntegrationSpec (quote : String → String) (integration : Integration) : Option String :=
  match integration.type with
  | .kafka =>
    match integration.kafka with
    | none => some "spec.kafka must be set when type=kafka"
    | some spec =>
      if spec.bootstrapServers = [] then
        some "spec.kafka.bootstrapServers must be non-empty when type=kafka"
      else none
  | .amqp =>
    match integration.amqp with
    | none => some "spec.amqp must be set when type=amqp"
    | some spec => if spec.url = "" then some "spec.amqp.url must be non-empty" else none
  | .nats =>
    match integration.nats with
    | none => some "spec.nats must be set when type=nats"
    | some spec => if spec.servers = [] then some "spec.nats.servers must be non-empty" else none
  | .http => if integration.http.isNone then some "spec.http must be set when type=http" else none
  | .plugin =>
    match integration.plugin with
    | none => some "spec.plugin must be set when type=plugin"
    | some spec =>
      if spec.image = "" then some "spec.plugin.image must be non-empty when type=plugin"
      else none
  | .other type => some ("unknown integration type " ++ quote type)

structure EnvVar where
  name : String
  value : String

/-- `os.Getenv`: empty where the variable is not set. -/
abbrev Environ := String → String

structure GatewayDeployment where
  name : NamespacedName
  labels : StringMap String
  replicas : Nat
  serviceAccountName : String
  container : String
  image : String
  args : List String
  env : List EnvVar

def sharedGatewayServiceAccountName : String := "kubezap-gateway"

def envVarKubezapNamespace : String := "KUBEZAP_NAMESPACE"
def envVarKubezapIntegrationName : String := "KUBEZAP_INTEGRATION_NAME"
def envVarWatchNamespaces : String := "WATCH_NAMESPACES"
def envVarLogLevel : String := "LOG_LEVEL"

def otelPassthroughEnv (environ : Environ) : List EnvVar :=
  ["OTEL_EXPORTER_OTLP_ENDPOINT", "OTEL_TRACES_SAMPLER_ARG"].filterMap fun name =>
    if environ name = "" then none else some ⟨name, environ name⟩

/-- The three Deployments, which differ in names and images, and in what is added to the
environment. -/
def desiredGatewayDeployment (environ : Environ) (component imageVar defaultImage : String)
    (added : List EnvVar) (integration : Integration) : GatewayDeployment where
  name := ⟨integration.name.namespace_, "kubezap-" ++ component ++ "-" ++ integration.name.name⟩
  labels :=
    [("app", "kubezap-" ++ component ++ "-" ++ integration.name.name),
      ("kubezap.io/component", component)]
  replicas := 1
  serviceAccountName := sharedGatewayServiceAccountName
  container := component
  image := if environ imageVar = "" then defaultImage else environ imageVar
  args := ["--namespace=" ++ integration.name.namespace_]
  env :=
    [⟨envVarWatchNamespaces, environ envVarWatchNamespaces⟩,
      ⟨envVarKubezapNamespace, integration.name.namespace_⟩,
      ⟨envVarKubezapIntegrationName, integration.name.name⟩, ⟨envVarLogLevel, "info"⟩] ++ added

def desiredKafkaGatewayDeployment (environ : Environ) : Integration → GatewayDeployment :=
  desiredGatewayDeployment environ "kafka-gateway" "KAFKA_GATEWAY_IMAGE"
    "ghcr.io/kubezap/kafka-gateway:latest" (otelPassthroughEnv environ)

def desiredAmqpGatewayDeployment (environ : Environ) : Integration → GatewayDeployment :=
  desiredGatewayDeployment environ "amqp-gateway" "AMQP_GATEWAY_IMAGE"
    "ghcr.io/kubezap/amqp-gateway:latest" []

def desiredNatsGatewayDeployment (environ : Environ) : Integration → GatewayDeployment :=
  desiredGatewayDeployment environ "nats-gateway" "NATS_GATEWAY_IMAGE"
    "ghcr.io/kubezap/nats-gateway:latest" []

/-- The Deployment of a gateway that `Reconcile` creates or overwrites. -/
def reconciledGateway (quote : String → String) (environ : Environ) (integration : Integration) :
    Option GatewayDeployment :=
  if (validateIntegrationSpec quote integration).isSome then none
  else
    match integration.type with
    | .kafka => some (desiredKafkaGatewayDeployment environ integration)
    | .amqp => some (desiredAmqpGatewayDeployment environ integration)
    | .nats => some (desiredNatsGatewayDeployment environ integration)
    | .plugin | .http | .other _ => none

/-- What `os.Getenv` returns in the container. -/
def GatewayDeployment.environ (gateway : GatewayDeployment) : Environ := fun name =>
  match gateway.env.find? (·.name == name) with
  | some var => var.value
  | none => ""

theorem reconciledGateway_eq {quote : String → String} {environ : Environ}
    {integration : Integration} {gateway : GatewayDeployment}
    (h : reconciledGateway quote environ integration = some gateway) :
    gateway.replicas = 1 ∧ gateway.args = ["--namespace=" ++ integration.name.namespace_] ∧
      gateway.environ envVarWatchNamespaces = environ envVarWatchNamespaces := by
  unfold reconciledGateway at h
  split at h
  · cases h
  · split at h
    · cases h
      exact ⟨rfl, rfl, rfl⟩
    · cases h
      exact ⟨rfl, rfl, rfl⟩
    · cases h
      exact ⟨rfl, rfl, rfl⟩
    · cases h
    · cases h
    · cases h

end KubeZap
