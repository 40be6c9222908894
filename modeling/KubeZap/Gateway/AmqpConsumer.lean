import KubeZap.Api.Integration
import KubeZap.Api.Runtime
import KubeZap.Foundation.Protocol
import KubeZap.Gateway.Deliveries

/-! # The AMQP 0-9-1 gateway's consumer

`gateway/amqp/handler.go` and the connections of `gateway/amqp/watcher.go`: a
subscription connects and takes deliveries from its channel until that is closed. A loop
that the source leaves open is cut here after a number of rounds that is given beforehand;
it may be any number.
-/

namespace KubeZap

open Foundation

/-- `V` are the values of an AMQP table. -/
structure AmqpMessage (V : Type) where
  body : Bytes
  headers : StringMap V
  routingKey : String

structure AmqpLib (V : Type) extends BrokerLib where
  /-- `fmt.Sprintf("%v", v)` -/
  sprint : V → String
  /-- `fmt.Sprintf("%q", s)` -/
  quote : String → String
  /-- `AppendCertsFromPEM` finds a certificate. -/
  parsesPEM : String → Bool
deriving Inhabited

structure MessageHandler091 where
  triggerName : String
  triggerNamespace : String
  flowRefName : String
deriving DecidableEq

structure TLSConfig where
  insecureSkipVerify : Bool := false
  /-- The certificates of `RootCAs`. -/
  rootCAs : Option String := none
deriving DecidableEq

inductive AmqpReq (V : Type)
  | getSecret (name : NamespacedName)
  | dial (url : String) (tls : Option TLSConfig)
  | openChannel
  | exchangeDeclare (channel : Nat) (name kind : String)
  | queueDeclare (channel : Nat) (name : String)
  | queueBind (channel : Nat) (name key exchange : String)
  | consume (channel : Nat) (queue consumer : String) (autoAck : Bool)
  | receive (channel : Nat)
  | create (run : FlowRun)
  | ack (channel tag : Nat) (multiple : Bool)
  | nack (channel tag : Nat) (multiple requeue : Bool)
  | closeChannel (channel : Nat)
  | closeConnection

/-- `receive` is answered with the tag and the message, or with nothing when the channel is closed
or the context has ended. -/
@[reducible] def AmqpReq.Reply {V : Type} : AmqpReq V → Type
  | .getSecret _ => Except String (StringMap String)
  | .dial .. | .exchangeDeclare .. | .queueDeclare .. | .queueBind .. | .consume ..
  | .ack .. | .nack .. => Option String
  | .openChannel => Except String Nat
  | .receive _ => Option (Nat × AmqpMessage V)
  | .create _ => CreateReply
  | .closeChannel _ | .closeConnection => Unit

section Programs

variable {V : Type}

abbrev AmqpProgram (V : Type) := Program (AmqpReq V) AmqpReq.Reply

abbrev AmqpReq.send (q : AmqpReq V) : AmqpProgram V q.Reply := Program.request q

variable (lib : AmqpLib V)

def amqpFlowRunName (h : MessageHandler091) (tag : Nat) : String :=
  sanitizeFlowRunName (h.triggerName ++ "-dt" ++ toString tag)

def amqpFlowRun (h : MessageHandler091) (tag : Nat) (msg : AmqpMessage V) : FlowRun :=
  let hdrs := redactStringMap lib.toLower (msg.headers.map fun (k, v) => (k, lib.sprint v)) []
  triggeredFlowRun ⟨h.triggerNamespace, amqpFlowRunName h tag⟩ h.triggerName .amqp h.flowRefName
    { source := "amqp"
      body := storedText lib.toBytesLib msg.body
      headers := hdrs
      topic := msg.routingKey }

def handleDelivery (h : MessageHandler091) (channel tag : Nat) (msg : AmqpMessage V) :
    AmqpProgram V (Option String) := do
  match ← AmqpReq.send (.create (amqpFlowRun lib h tag msg)) with
  | .created | .alreadyExists => AmqpReq.send (.ack channel tag false)
  | .failed err => return some err

def run091 (h : MessageHandler091) (channel : Nat) : Nat → AmqpProgram V Unit
  | 0 => return
  | rounds + 1 => do
      match ← AmqpReq.send (.receive channel) with
      | none => return
      | some (tag, msg) =>
        match ← handleDelivery lib h channel tag msg with
        | some _ =>
          -- a failed nack is only logged
          let _ ← AmqpReq.send (.nack channel tag false true)
          run091 h channel rounds
        | none => run091 h channel rounds

def readSecretKey091 (namespace_ : String) (ref : KeySelector) :
    AmqpProgram V (Except String String) := do
  match ← AmqpReq.send (.getSecret ⟨namespace_, ref.name⟩) with
  | .error err => return .error ("get secret " ++ namespace_ ++ "/" ++ ref.name ++ ": " ++ err)
  | .ok data =>
    match data.lookup ref.key with
    | none => return .error ("secret " ++ namespace_ ++ "/" ++ ref.name ++
        " does not contain key " ++ lib.quote ref.key)
    | some val => return .ok val

def embedCredsInURL (rawURL username password : String) : String :=
  match ["amqps://", "amqp://"].find? (startsWith rawURL ·) with
  | some scheme => scheme ++ username ++ ":" ++ password ++ "@" ++ trimStart rawURL scheme
  | none => rawURL

def buildTLSConfig091 (namespace_ : String) (spec : AmqpIntegrationSpec) :
    AmqpProgram V (Except String TLSConfig) := do
  match spec.tls with
  | none => return .ok {}
  | some tls =>
    match tls.caSecretRef with
    | none => return .ok { insecureSkipVerify := tls.insecureSkipVerify }
    | some ref =>
      match ← readSecretKey091 lib namespace_ ref with
      | .error err => return .error ("reading CA cert secret: " ++ err)
      | .ok caPEM =>
        if lib.parsesPEM caPEM then
          return .ok { insecureSkipVerify := tls.insecureSkipVerify, rootCAs := some caPEM }
        else return .error ("failed to parse CA certificate from secret " ++ namespace_ ++ "/" ++
          ref.name ++ " key " ++ ref.key)

def brokerURL091 (namespace_ : String) (spec : AmqpIntegrationSpec) :
    AmqpProgram V (Except String String) := do
  match spec.usernameSecretRef with
  | none => return .ok spec.url
  | some userRef =>
    match ← readSecretKey091 lib namespace_ userRef with
    | .error err => return .error ("reading username secret: " ++ err)
    | .ok username =>
      match spec.passwordSecretRef with
      | none => return .ok (embedCredsInURL spec.url username "")
      | some passRef =>
        match ← readSecretKey091 lib namespace_ passRef with
        | .error err => return .error ("reading password secret: " ++ err)
        | .ok password => return .ok (embedCredsInURL spec.url username password)

/-- `amqp091.Dial`, or `amqp091.DialTLS` where the Integration or its URL asks for TLS. -/
def dial091 (namespace_ : String) (spec : AmqpIntegrationSpec) (url : String) :
    AmqpProgram V (Except String Unit) := do
  let dial (tls : Option TLSConfig) : AmqpProgram V (Except String Unit) := do
    return orFail "dialing amqp broker: " (← AmqpReq.send (.dial url tls))
  if spec.tls.any (·.enabled) || startsWith url "amqps://" then
    match ← buildTLSConfig091 lib namespace_ spec with
    | .error err => return .error ("building TLS config: " ++ err)
    | .ok tls => dial (some tls)
  else dial none

/-- The queue is durable; its exchange, where there is one, too. Deliveries are acknowledged by
the handler. -/
def declareAndBind091 (channel : Nat) (topic routingKey : String)
    (exchange : Option AmqpExchangeSpec) (consumerTag : String) :
    AmqpProgram V (Except String Unit) :=
  let declareExchange : AmqpProgram V (Except String Unit) := do
    match exchange with
    | none => return .ok ()
    | some e =>
      let err ← AmqpReq.send (.exchangeDeclare channel e.name e.type)
      return orFail ("declaring exchange " ++ lib.quote e.name ++ ": ") err
  let declareQueue : AmqpProgram V (Except String Unit) := do
    let err ← AmqpReq.send (.queueDeclare channel topic)
    return orFail ("declaring queue " ++ lib.quote topic ++ ": ") err
  let bindQueue : AmqpProgram V (Except String Unit) := do
    match exchange with
    | none => return .ok ()
    | some e =>
      let err ← AmqpReq.send (.queueBind channel topic routingKey e.name)
      return orFail ("binding queue " ++ lib.quote topic ++ " to exchange " ++ lib.quote e.name ++
        ": ") err
  let consume : AmqpProgram V (Except String Unit) := do
    let err ← AmqpReq.send (.consume channel topic consumerTag false)
    return orFail ("starting consume on queue " ++ lib.quote topic ++ ": ") err
  declareExchange.tryThen fun _ => declareQueue.tryThen fun _ => bindQueue.tryThen fun _ => consume

/-- What a subscription is made for: the Trigger with its source, and the Integration. -/
structure Subscription091 where
  trigger : NamespacedName
  source : AmqpTrigger
  spec : AmqpIntegrationSpec
  flowRefName : String

def Subscription091.handler (sub : Subscription091) : MessageHandler091 :=
  ⟨sub.trigger.name, sub.trigger.namespace_, sub.flowRefName⟩

def channel091 (sub : Subscription091) (rounds channel : Nat) :
    AmqpProgram V (Except String Unit) := do
  let consumerTag := "kubezap-" ++ sub.trigger.name
  let result ← (declareAndBind091 lib channel sub.source.topic sub.source.routingKey
    sub.source.exchange consumerTag).tryThen fun _ => do
      run091 lib sub.handler channel rounds
      return .ok ()
  AmqpReq.send (.closeChannel channel)
  return result

def connect091 (sub : Subscription091) (rounds : Nat) : AmqpProgram V (Except String Unit) :=
  (brokerURL091 lib sub.trigger.namespace_ sub.spec).tryThen fun url =>
    (dial091 lib sub.trigger.namespace_ sub.spec url).tryThen fun _ => do
      let result ← match ← AmqpReq.send .openChannel with
        | .error err => pure (.error ("opening amqp channel: " ++ err))
        | .ok channel => channel091 lib sub rounds channel
      AmqpReq.send .closeConnection
      return result

end Programs

end KubeZap
