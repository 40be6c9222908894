import KubeZap.Api.Types

/-! # Integration objects

The parts of an Integration that steps and gateways read: HTTP defaults and
authentication, the Kafka, AMQP and NATS connections, and the port of a publisher plugin.
A reference to a Secret or ConfigMap is resolved in the namespace of its user.
-/

namespace KubeZap

/-- `corev1.SecretKeySelector` and `corev1.ConfigMapKeySelector` -/
structure KeySelector where
  name : String
  key : String
deriving DecidableEq

structure HttpBasicAuth where
  usernameSecretRef : KeySelector
  passwordSecretRef : KeySelector
deriving DecidableEq

structure HttpAPIKeyAuth where
  headerName : String
  valueSecretRef : KeySelector
deriving DecidableEq

inductive HttpAuthType
  | bearer
  | basic
  | apiKey
  | secretURL
deriving DecidableEq

structure HttpAuthSpec where
  type : HttpAuthType
  bearer : Option KeySelector := none
  basic : Option HttpBasicAuth := none
  apiKey : Option HttpAPIKeyAuth := none
  secretURL : Option KeySelector := none
deriving DecidableEq

structure HttpTLSSpec where
  caBundleConfigMapRef : Option KeySelector := none
  clientCertSecretRef : Option String := none
deriving DecidableEq

structure HttpIntegrationSpec where
  baseURL : String := ""
  auth : Option HttpAuthSpec := none
  defaultHeaders : StringMap String := []
  tls : Option HttpTLSSpec := none
deriving DecidableEq

structure KafkaTLSConfig where
  enabled : Bool := false
  insecureSkipVerify : Bool := false
  caSecretRef : Option KeySelector := none
  clientCertSecretRef : Option String := none
deriving DecidableEq

/-- `KafkaSASLConfig.Mechanism`: the API server admits the first three. -/
inductive SASLMechanism
  | plain
  | scramSHA256
  | scramSHA512
  | other (mechanism : String)
deriving DecidableEq

structure KafkaSASLConfig where
  mechanism : SASLMechanism
  usernameSecretRef : KeySelector
  passwordSecretRef : KeySelector
deriving DecidableEq

structure KafkaIntegrationSpec where
  bootstrapServers : List String
  tls : Option KafkaTLSConfig := none
  sasl : Option KafkaSASLConfig := none
deriving DecidableEq

structure AmqpTLSConfig where
  enabled : Bool := false
  insecureSkipVerify : Bool := false
  caSecretRef : Option KeySelector := none
deriving DecidableEq

/-- `AmqpIntegrationSpec.Version`: the API server admits the first two. -/
inductive AmqpVersion
  | v091
  | v10
  | other (version : String)
deriving DecidableEq

def AmqpVersion.text : AmqpVersion → String
  | .v091 => "0-9-1"
  | .v10 => "1.0"
  | .other version => version

structure AmqpIntegrationSpec where
  url : String
  version : Option AmqpVersion := none
  tls : Option AmqpTLSConfig := none
  usernameSecretRef : Option KeySelector := none
  passwordSecretRef : Option KeySelector := none
deriving DecidableEq

structure NatsTLSConfig where
  insecureSkipVerify : Bool := false
  caSecretRef : Option KeySelector := none
  clientCertSecretRef : Option String := none
deriving DecidableEq

structure NatsIntegrationSpec where
  servers : List String
  tls : Option NatsTLSConfig := none
  credentialsSecretRef : Option String := none
  usernameSecretRef : Option KeySelector := none
  passwordSecretRef : Option KeySelector := none
  jetStream : Bool := false
deriving DecidableEq

structure PluginMTLSSpec where
  enabled : Bool := false
deriving DecidableEq

inductive EnvVarSource
  | secretKeyRef (ref : KeySelector)
  | configMapKeyRef (ref : KeySelector)
  | fieldRef (fieldPath : String)
  | resourceFieldRef (resource : String)
deriving DecidableEq

/-- `corev1.EnvVar` -/
structure ContainerEnv where
  name : String
  value : String := ""
  valueFrom : Option EnvVarSource := none
deriving DecidableEq

structure PluginSecretRef where
  secretName : String
  /-- Environment variables, by the key of the Secret that each is taken from. -/
  envVarMappings : StringMap String := []
deriving DecidableEq

structure PluginIntegrationSpec where
  image : String := ""
  imageDigest : String := ""
  publisherPort : Int := 0
  secretRefs : List PluginSecretRef := []
  env : List ContainerEnv := []
  mtls : Option PluginMTLSSpec := none
deriving DecidableEq

/-- `IntegrationSpec.Type`: the API server admits all but the last. -/
inductive IntegrationType
  | kafka
  | amqp
  | nats
  | plugin
  | http
  | other (type : String)
deriving DecidableEq

structure Integration where
  name : NamespacedName
  type : IntegrationType
  kafka : Option KafkaIntegrationSpec := none
  amqp : Option AmqpIntegrationSpec := none
  nats : Option NatsIntegrationSpec := none
  plugin : Option PluginIntegrationSpec := none
  http : Option HttpIntegrationSpec := none
deriving DecidableEq

end KubeZap
