import KubeZap.Gateway.AmqpConsumer
import KubeZap.Gateway.BrokerWatcher
import KubeZap.Gateway.KafkaConsumer
import KubeZap.Gateway.NatsConsumer

/-! # The kafka, amqp and nats watchers

What each of the three watchers adds to the common handlers: the fields it takes
from a Trigger and remembers, the Secrets it reads, and its `startSubscription`. The
settings that a subscription is started with are one record per broker.
-/

namespace KubeZap.Gateway

open Foundation

variable (lib : WatcherLib) (trigger : Trigger) (watch : AmqpWatch)

/-- The TLS settings of a client whose CA certificate was read before. -/
def clientTLS (namespace_ : String) (insecureSkipVerify : Bool) (caSecretRef : Option KeySelector)
    (caPEM : String) : Except String TLSConfig :=
  match caSecretRef with
  | none => .ok { insecureSkipVerify := insecureSkipVerify }
  | some ref =>
    if lib.parsesPEM caPEM then
      .ok { insecureSkipVerify := insecureSkipVerify, rootCAs := some caPEM }
    else .error ("failed to parse CA certificate from secret " ++ namespace_ ++ "/" ++ ref.name ++
      " key " ++ ref.key)

/-- The section of a Trigger, where the Trigger is of the type and enabled. -/
def enabledSection {α : Type} (type : TriggerType) (section_ : Option α) : Option α :=
  if trigger.spec.type = type ∧ trigger.spec.enabled = true then section_ else none

/-! ## Kafka -/

structure KafkaWatch where
  integrationName : String
  topic : String
  consumerGroup : String

def kafkaWatch : Option KafkaWatch :=
  (enabledSection trigger .kafka trigger.spec.kafka).map fun kafka =>
    { integrationName := kafka.integrationRef
      topic := kafka.topic
      consumerGroup :=
        if kafka.consumerGroup = "" then "kubezap-" ++ trigger.key.name else kafka.consumerGroup }

structure KafkaValues where
  caPEM : String := ""
  saslUsername : String := ""
  saslPassword : String := ""

def KafkaIntegrationSpec.caSecretRef (spec : KafkaIntegrationSpec) : Option KeySelector :=
  match spec.tls with
  | none => none
  | some tls => if tls.enabled then tls.caSecretRef else none

def resolveKafkaSASL (namespace_ : String) (sasl : KafkaSASLConfig)
    (creds : Resolved KafkaValues) : ReadProgram (Resolved KafkaValues × Option String) := do
  match ← readSecretKey lib namespace_ sasl.usernameSecretRef with
  | .error err => return (creds, some ("reading SASL username secret: " ++ err))
  | .ok username =>
    match ← readSecretKey lib namespace_ sasl.passwordSecretRef with
    | .error err => return (creds, some ("reading SASL password secret: " ++ err))
    | .ok password =>
      return (creds.add { creds.values with saslUsername := username, saslPassword := password }
        namespace_ [(sasl.usernameSecretRef, username), (sasl.passwordSecretRef, password)], none)

def resolveKafkaCredentials (namespace_ : String) (spec : KafkaIntegrationSpec) :
    ReadProgram (Resolved KafkaValues × Option String) :=
  let withSASL (creds : Resolved KafkaValues) :
      ReadProgram (Resolved KafkaValues × Option String) :=
    match spec.sasl with
    | none => return (creds, none)
    | some sasl => resolveKafkaSASL lib namespace_ sasl creds
  match KafkaIntegrationSpec.caSecretRef spec with
  | none => withSASL { values := {} }
  | some ref => do
      match ← readSecretKey lib namespace_ ref with
      | .error err => return ({ values := {} }, some ("reading CA cert secret: " ++ err))
      | .ok caPEM =>
        withSASL (Resolved.add { values := {} } { caPEM := caPEM } namespace_ [(ref, caPEM)])

structure KafkaRemembered where
  integrationName : String
  topic : String
  consumerGroup : String
  credentialFingerprint : String
deriving DecidableEq

/-- `config.Net.SASL` -/
structure SASLSettings where
  mechanism : SASLMechanism
  user : String
  password : String
deriving DecidableEq

@[ext]
structure KafkaConfig where
  bootstrapServers : List String
  groupID : String
  topic : String
  tls : Option TLSConfig
  sasl : Option SASLSettings
  handler : MessageHandler
deriving DecidableEq

def kafkaTLS (namespace_ : String) (spec : KafkaIntegrationSpec)
    (values : KafkaValues) : Except String (Option TLSConfig) :=
  match spec.tls with
  | none => .ok none
  | some tls =>
    if tls.enabled then
      (clientTLS lib namespace_ tls.insecureSkipVerify tls.caSecretRef values.caPEM).map some
    else .ok none

def kafkaSASL (spec : KafkaIntegrationSpec) (values : KafkaValues) :
    Except String (Option SASLSettings) :=
  match spec.sasl with
  | none => .ok none
  | some sasl =>
    match sasl.mechanism with
    | .other mechanism => .error ("unsupported SASL mechanism: " ++ mechanism)
    | mechanism => .ok (some ⟨mechanism, values.saslUsername, values.saslPassword⟩)

def kafkaConfig (watch : KafkaWatch) (spec : KafkaIntegrationSpec)
    (values : KafkaValues) : Except String KafkaConfig := do
  let tls ← kafkaTLS lib trigger.key.namespace_ spec values
  let sasl ← kafkaSASL spec values
  return {
    bootstrapServers := spec.bootstrapServers
    groupID := watch.consumerGroup
    topic := watch.topic
    tls := tls
    sasl := sasl
    handler := ⟨trigger.key.name, trigger.key.namespace_, trigger.spec.flowRef⟩ }

def kafkaRemembered (watch : KafkaWatch) (fingerprint : String) : KafkaRemembered :=
  ⟨watch.integrationName, watch.topic, watch.consumerGroup, fingerprint⟩

/-- The start of a subscription that is stored once it is connected. -/
def startConnected {R C : Type} (key : NamespacedName) (remembered : R) (built : Except String C) :
    Program (Req R C) Req.Reply (Except String Unit) :=
  match built with
  | .error err => return .error err
  | .ok config => do
      match ← Req.send (.connect config) with
      | some err => return .error err
      | none => do
          let _ ← Req.send (.storeSubscription key remembered config)
          return .ok ()

def kafkaBroker : Broker where
  lib := lib
  name := "kafka"
  Watch := KafkaWatch
  Spec := KafkaIntegrationSpec
  Values := KafkaValues
  Remembered := KafkaRemembered
  Config := KafkaConfig
  decEqRemembered := inferInstance
  decEqConfig := inferInstance
  watch := kafkaWatch
  integrationName := KafkaWatch.integrationName
  spec := Integration.kafka
  resolveCredentials := resolveKafkaCredentials lib
  unchanged sub watch fingerprint :=
    sub.topic == watch.topic && sub.consumerGroup == watch.consumerGroup &&
      sub.integrationName == watch.integrationName && sub.credentialFingerprint == fingerprint
  startSubscription trigger watch spec creds :=
    startConnected trigger.key (kafkaRemembered watch (creds.fingerprint lib))
      (kafkaConfig lib trigger watch spec creds.values)

/-! ## AMQP -/

structure AmqpWatch where
  integrationName : String
  topic : String
  routingKey : String
  exchange : Option AmqpExchangeSpec

def amqpWatch : Option AmqpWatch :=
  (enabledSection trigger .amqp trigger.spec.amqp).map fun amqp =>
    ⟨amqp.integrationRef, amqp.topic, amqp.routingKey, amqp.exchange⟩

/-- One optional Secret of `resolveAmqpCredentials`; no value is kept. -/
def resolveAmqpSecret (namespace_ what : String) (ref : Option KeySelector) (creds : Resolved Unit)
    (next : Resolved Unit → ReadProgram (Resolved Unit × Option String)) :
    ReadProgram (Resolved Unit × Option String) :=
  match ref with
  | none => next creds
  | some ref => do
      match ← readSecretKey lib namespace_ ref with
      | .error err => return (creds, some ("reading " ++ what ++ " secret: " ++ err))
      | .ok value => next (creds.add () namespace_ [(ref, value)])

def AmqpIntegrationSpec.caSecretRef (spec : AmqpIntegrationSpec) : Option KeySelector :=
  spec.tls.bind (·.caSecretRef)

def resolveAmqpCredentials (namespace_ : String) (spec : AmqpIntegrationSpec) :
    ReadProgram (Resolved Unit × Option String) :=
  resolveAmqpSecret lib namespace_ "username" spec.usernameSecretRef { values := () } fun creds =>
    resolveAmqpSecret lib namespace_ "password" spec.passwordSecretRef creds fun creds =>
      resolveAmqpSecret lib namespace_ "CA cert" (AmqpIntegrationSpec.caSecretRef spec) creds
        fun creds => return (creds, none)

structure AmqpRemembered where
  integrationName : String
  topic : String
  routingKey : String
  credentialFingerprint : String
deriving DecidableEq

structure AmqpConnection where
  url : String
  sasl : Option (String × String)
  tls : Option TLSConfig
deriving DecidableEq

/-- The goroutine of a subscription, with the connection that it makes first. -/
@[ext]
structure AmqpConfig where
  version : AmqpVersion
  connection : Except String AmqpConnection
  topic : String
  routingKey : String
  exchange : Option AmqpExchangeSpec
  consumerTag : String
  handler : MessageHandler091
deriving DecidableEq

/-- `buildTLSConfig091` and `buildTLSConfig10` -/
def amqpTLS (namespace_ : String) (spec : AmqpIntegrationSpec) (url : String) :
    ReadProgram (Except String (Option TLSConfig)) := do
  if spec.tls.any (·.enabled) || startsWith url "amqps://" then
    match AmqpIntegrationSpec.caSecretRef spec with
    | none => return .ok (some { insecureSkipVerify := spec.tls.any (·.insecureSkipVerify) })
    | some ref =>
      match ← readSecretKey lib namespace_ ref with
      | .error err => return .error ("building TLS config: reading CA cert secret: " ++ err)
      | .ok caPEM =>
        match clientTLS lib namespace_ (spec.tls.any (·.insecureSkipVerify)) (some ref) caPEM with
        | .error err => return .error ("building TLS config: " ++ err)
        | .ok tls => return .ok (some tls)
  else return .ok none

def amqpLogin (namespace_ : String) (spec : AmqpIntegrationSpec) :
    ReadProgram (Except String (Option (String × String))) :=
  match spec.usernameSecretRef with
  | none => return .ok none
  | some userRef => do
      match ← readSecretKey lib namespace_ userRef with
      | .error err => return .error ("reading username secret: " ++ err)
      | .ok username =>
        match spec.passwordSecretRef with
        | none => return .ok (some (username, ""))
        | some passRef =>
          match ← readSecretKey lib namespace_ passRef with
          | .error err => return .error ("reading password secret: " ++ err)
          | .ok password => return .ok (some (username, password))

/-- `connect091` up to the dialling. -/
def connection091 (namespace_ : String) (spec : AmqpIntegrationSpec) :
    ReadProgram (Except String AmqpConnection) :=
  (amqpLogin lib namespace_ spec).tryThen fun login =>
    let url := match login with
      | none => spec.url
      | some (username, password) => embedCredsInURL spec.url username password
    (amqpTLS lib namespace_ spec url).tryThen fun tls => return .ok ⟨url, none, tls⟩

/-- `connect10` up to the dialling. -/
def connection10 (namespace_ : String) (spec : AmqpIntegrationSpec) :
    ReadProgram (Except String AmqpConnection) :=
  (amqpTLS lib namespace_ spec spec.url).tryThen fun tls =>
    (amqpLogin lib namespace_ spec).tryThen fun login => return .ok ⟨spec.url, login, tls⟩

def AmqpIntegrationSpec.wireVersion (spec : AmqpIntegrationSpec) : AmqpVersion :=
  spec.version.getD .v091

/-- The versions and exchanges that `startSubscription` refuses. -/
def amqpRefusal (version : AmqpVersion) : Option String :=
  let place := trigger.key.namespace_ ++ "/" ++ trigger.key.name
  if watch.exchange.isSome ∧ version ≠ .v091 then
    some ("amqp exchange routing (spec.amqp.exchange) is only supported for version " ++
      lib.quote AmqpVersion.v091.text ++ ", got version " ++ lib.quote version.text ++
      " for trigger " ++ place)
  else
    match version with
    | .v091 | .v10 => none
    | .other _ =>
      some ("unsupported amqp version " ++ lib.quote version.text ++ " for trigger " ++ place)

def amqpConfig (spec : AmqpIntegrationSpec) : ReadProgram AmqpConfig := do
  let connection ← match AmqpIntegrationSpec.wireVersion spec with
    | .v10 => connection10 lib trigger.key.namespace_ spec
    | .v091 | .other _ => connection091 lib trigger.key.namespace_ spec
  return {
    version := AmqpIntegrationSpec.wireVersion spec
    connection := connection
    topic := watch.topic
    routingKey := watch.routingKey
    exchange := watch.exchange
    consumerTag := "kubezap-" ++ trigger.key.name
    handler := ⟨trigger.key.name, trigger.key.namespace_, trigger.spec.flowRef⟩ }

def amqpRemembered (fingerprint : String) : AmqpRemembered :=
  ⟨watch.integrationName, watch.topic, watch.routingKey, fingerprint⟩

/-- The subscription is stored first and given up again if it is refused. The reads are
those of the goroutine that it leaves behind. -/
def startAmqp (spec : AmqpIntegrationSpec) (fingerprint : String) :
    Program (Req AmqpRemembered AmqpConfig) Req.Reply (Except String Unit) := do
  let config ← (amqpConfig lib trigger watch spec).lift Req.read (fun _ x => x)
  let sub ← Req.send
    (.storeSubscription trigger.key (amqpRemembered watch fingerprint) config)
  match amqpRefusal lib trigger watch (AmqpIntegrationSpec.wireVersion spec) with
  | some err => do
      Req.send (.discard sub)
      return .error err
  | none => return .ok ()

def amqpBroker : Broker where
  lib := lib
  name := "amqp"
  Watch := AmqpWatch
  Spec := AmqpIntegrationSpec
  Values := Unit
  Remembered := AmqpRemembered
  Config := AmqpConfig
  decEqRemembered := inferInstance
  decEqConfig := inferInstance
  watch := amqpWatch
  integrationName := AmqpWatch.integrationName
  spec := Integration.amqp
  resolveCredentials := resolveAmqpCredentials lib
  unchanged sub watch fingerprint :=
    sub.topic == watch.topic && sub.routingKey == watch.routingKey &&
      sub.integrationName == watch.integrationName && sub.credentialFingerprint == fingerprint
  startSubscription trigger watch spec creds :=
    startAmqp lib trigger watch spec (creds.fingerprint lib)

/-! ## NATS -/

structure NatsWatch where
  integrationName : String
  subject : String

def natsWatch : Option NatsWatch :=
  (enabledSection trigger .nats trigger.spec.nats).map fun nats =>
    ⟨nats.integrationRef, nats.subject⟩

structure NatsValues where
  caPEM : String := ""
  credsContent : String := ""
  username : String := ""
  password : String := ""

def NatsIntegrationSpec.caSecretRef (spec : NatsIntegrationSpec) : Option KeySelector :=
  spec.tls.bind (·.caSecretRef)

/-- User and password; the user is read before the missing password is noticed. -/
def resolveNatsUser (namespace_ : String) (userRef : KeySelector) (passRef : Option KeySelector)
    (creds : Resolved NatsValues) :
    ReadProgram (Resolved NatsValues × Option String) := do
  match ← readSecretKey lib namespace_ userRef with
  | .error err => return (creds, some ("reading nats username secret: " ++ err))
  | .ok username =>
    match passRef with
    | none =>
      return (creds,
        some "spec.nats.passwordSecretRef must be set when usernameSecretRef is set")
    | some passRef =>
      match ← readSecretKey lib namespace_ passRef with
      | .error err => return (creds, some ("reading nats password secret: " ++ err))
      | .ok password =>
        return (creds.add { creds.values with username := username, password := password }
          namespace_ [(userRef, username), (passRef, password)], none)

/-- The part of `resolveNatsCredentials` after the CA certificate. -/
def resolveNatsLogin (namespace_ : String) (spec : NatsIntegrationSpec)
    (creds : Resolved NatsValues) : ReadProgram (Resolved NatsValues × Option String) :=
  match spec.credentialsSecretRef, spec.usernameSecretRef with
  | some name, _ => do
      match ← readSecretKey lib namespace_ ⟨name, "nats.creds"⟩ with
      | .error err => return (creds, some ("reading nats credentials secret: " ++ err))
      | .ok credsContent =>
        return (creds.add { creds.values with credsContent := credsContent } namespace_
          [(⟨name, "nats.creds"⟩, credsContent)], none)
  | none, some userRef => resolveNatsUser lib namespace_ userRef spec.passwordSecretRef creds
  | none, none => return (creds, none)

def resolveNatsCredentials (namespace_ : String) (spec : NatsIntegrationSpec) :
    ReadProgram (Resolved NatsValues × Option String) :=
  match NatsIntegrationSpec.caSecretRef spec with
  | none => resolveNatsLogin lib namespace_ spec { values := {} }
  | some ref => do
      match ← readSecretKey lib namespace_ ref with
      | .error err => return ({ values := {} }, some ("reading CA cert secret: " ++ err))
      | .ok caPEM =>
        resolveNatsLogin lib namespace_ spec
          (Resolved.add { values := {} } { caPEM := caPEM } namespace_ [(ref, caPEM)])

structure NatsRemembered where
  integrationName : String
  subject : String
  isJetStream : Bool
  credentialFingerprint : String
deriving DecidableEq

inductive NatsLogin
  | anonymous
  | userCredentials (content : String)
  | userInfo (user password : String)
deriving DecidableEq

@[ext]
structure NatsConfig where
  servers : String
  tls : Option TLSConfig
  login : NatsLogin
  subject : String
  durable : Option String
  handler : Nats.MessageHandler
deriving DecidableEq

def natsTLS (namespace_ : String) (spec : NatsIntegrationSpec)
    (values : NatsValues) : Except String (Option TLSConfig) :=
  match spec.tls with
  | none => .ok none
  | some tls =>
    (clientTLS lib namespace_ tls.insecureSkipVerify tls.caSecretRef values.caPEM).map some

def natsLogin (spec : NatsIntegrationSpec) (values : NatsValues) : NatsLogin :=
  if spec.credentialsSecretRef.isSome then .userCredentials values.credsContent
  else if spec.usernameSecretRef.isSome then .userInfo values.username values.password
  else .anonymous

def natsConfig (watch : NatsWatch) (spec : NatsIntegrationSpec)
    (values : NatsValues) : Except String NatsConfig := do
  let tls ← natsTLS lib trigger.key.namespace_ spec values
  return {
    servers := String.intercalate "," spec.servers
    tls := tls
    login := natsLogin spec values
    subject := watch.subject
    durable := if spec.jetStream then some (Nats.durableName trigger.key.name) else none
    handler := ⟨trigger.key.name, trigger.key.namespace_, trigger.spec.flowRef, spec.jetStream⟩ }

def natsRemembered (watch : NatsWatch) (spec : NatsIntegrationSpec) (fingerprint : String) :
    NatsRemembered :=
  ⟨watch.integrationName, watch.subject, spec.jetStream, fingerprint⟩

/-- What a subscription remembers of JetStream is not compared. -/
def natsBroker : Broker where
  lib := lib
  name := "nats"
  Watch := NatsWatch
  Spec := NatsIntegrationSpec
  Values := NatsValues
  Remembered := NatsRemembered
  Config := NatsConfig
  decEqRemembered := inferInstance
  decEqConfig := inferInstance
  watch := natsWatch
  integrationName := NatsWatch.integrationName
  spec := Integration.nats
  resolveCredentials := resolveNatsCredentials lib
  unchanged sub watch fingerprint :=
    sub.subject == watch.subject && sub.integrationName == watch.integrationName &&
      sub.credentialFingerprint == fingerprint
  startSubscription trigger watch spec creds :=
    startConnected trigger.key (natsRemembered watch spec (creds.fingerprint lib))
      (natsConfig lib trigger watch spec creds.values)

/-! ## The three of them -/

inductive BrokerType
  | kafka
  | amqp
  | nats

def BrokerType.broker : BrokerType → Broker
  | .kafka => kafkaBroker lib
  | .amqp => amqpBroker lib
  | .nats => natsBroker lib

end KubeZap.Gateway
