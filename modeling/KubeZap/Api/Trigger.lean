import KubeZap.Api.Integration

/-! # Trigger objects

A Trigger names a Flow and the source of events that starts it. One record holds
the configurations of all source types; `type` says which of them is meant, and
nothing in the API ties the two together. An optional enumeration is `none` where
the source has the empty string.
-/

namespace KubeZap

inductive WebhookAuthType
  | hmac
  | bearer
  | oidc
  | basic
  | apiKey
  | ipAllowlist
  | headerEquals
deriving DecidableEq

inductive HMACProvider
  | github
  | slack
deriving DecidableEq

structure HMACConfig where
  secretRef : KeySelector
  provider : Option HMACProvider := none
  timestampToleranceSeconds : Int := 0
deriving DecidableEq

structure BearerConfig where
  tokenSecretRef : KeySelector
deriving DecidableEq

structure OIDCConfig where
  issuer : String
  audience : String := ""
deriving DecidableEq

structure APIKeyConfig where
  secretRef : KeySelector
  header : String := ""
deriving DecidableEq

structure IPAllowlistConfig where
  cidrs : List String
deriving DecidableEq

structure HeaderEqualsConfig where
  header : String
  secretRef : KeySelector
deriving DecidableEq

structure WebhookBasicAuth where
  secretRef : String
  usernameKey : String := ""
  passwordKey : String := ""
deriving DecidableEq

/-- Only the configuration of the given type is read. -/
structure WebhookAuth where
  type : Option WebhookAuthType := none
  hmac : Option HMACConfig := none
  bearer : Option BearerConfig := none
  oidc : Option OIDCConfig := none
  basic : Option WebhookBasicAuth := none
  apiKey : Option APIKeyConfig := none
  ipAllowlist : Option IPAllowlistConfig := none
  headerEquals : Option HeaderEqualsConfig := none
deriving DecidableEq

structure WebhookRateLimit where
  maxRequests : Int
  window : Duration := 0
deriving DecidableEq

inductive WebhookMethod
  | post
  | put
deriving DecidableEq

def WebhookMethod.text : WebhookMethod → String
  | .post => "POST"
  | .put => "PUT"

structure WebhookTrigger where
  path : String
  method : Option WebhookMethod := none
  auth : Option WebhookAuth := none
  rateLimit : Option WebhookRateLimit := none
  redactHeaders : List String := []
  redactBody : Bool := false
deriving DecidableEq

structure CronTrigger where
  schedule : String
  timezone : String := ""
deriving DecidableEq

structure KafkaTrigger where
  integrationRef : String
  topic : String
  consumerGroup : String := ""
deriving DecidableEq

structure AmqpExchangeSpec where
  name : String
  type : String
deriving DecidableEq

structure AmqpTrigger where
  integrationRef : String
  topic : String
  routingKey : String := ""
  exchange : Option AmqpExchangeSpec := none
deriving DecidableEq

structure NatsTrigger where
  integrationRef : String
  subject : String
deriving DecidableEq

structure PluginTrigger where
  integrationRef : String
  /-- Only the plugin reads it. -/
  config : StringMap String := []
deriving DecidableEq

/-- `metav1.LabelSelectorRequirement`. The API server does not restrict the
operator of a selector inside a custom resource. -/
structure LabelSelectorRequirement where
  key : String
  operator : String
  values : List String := []
deriving DecidableEq

structure LabelSelector where
  matchLabels : StringMap String := []
  matchExpressions : List LabelSelectorRequirement := []
deriving DecidableEq

structure ResourceTrigger where
  apiVersion : String
  kind : String
  namespace_ : String := ""
  labelSelector : Option LabelSelector := none
  events : List String := []
  watchFields : List String := []
  cooldown : Option Duration := none
deriving DecidableEq

structure CooldownPolicy where
  maxInvocations : Int := 0
  window : Option Duration := none
deriving DecidableEq

structure TriggerSpec where
  type : TriggerType
  enabled : Bool := true
  webhook : Option WebhookTrigger := none
  cron : Option CronTrigger := none
  kafka : Option KafkaTrigger := none
  amqp : Option AmqpTrigger := none
  nats : Option NatsTrigger := none
  plugin : Option PluginTrigger := none
  resource : Option ResourceTrigger := none
  flowRef : String
  cooldown : Option CooldownPolicy := none
deriving DecidableEq

structure TriggerStatus where
  lastTriggeredTime : Option Time := none
  lastResult : String := ""
  currentInvocationCount : Int := 0
deriving DecidableEq

structure Trigger where
  metadata : ObjectMeta
  spec : TriggerSpec
  status : TriggerStatus := {}
deriving DecidableEq

/-- `types.NamespacedName{Name: trigger.Name, Namespace: trigger.Namespace}` -/
def Trigger.key (t : Trigger) : NamespacedName := t.metadata.name

end KubeZap
