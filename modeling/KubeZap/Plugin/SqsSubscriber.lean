import Mathlib.Data.List.DropRight
import KubeZap.Foundation.Protocol
import KubeZap.Gateway.Deliveries

/-! # The SQS plugin's subscriber

`plugin/awsmessaging/subscriber.go`: a subscription polls its queue and makes a FlowRun
of each message before it deletes the message. A loop that the source leaves open is cut
here after a number of rounds that is given beforehand; it may be any number.
-/

namespace KubeZap.AwsMessaging

open Foundation

structure MessageAttributeValue where
  stringValue : Option String := none
  binaryValue : Bytes := []

structure Payload where
  body : Bytes := []
  messageAttributes : StringMap MessageAttributeValue := []

structure Message extends Payload where
  messageId : Option String
  receiptHandle : String

def trimDashes (s : String) : String := String.ofList (s.toList.rdropWhile (· = '-'))

def FlowRunName (triggerName messageID : String) : String :=
  trimDashes (sanitizeFlowRunName (triggerName ++ "-msg-" ++ messageID))

/-- The attributes as a map of texts; one without a value is left out. -/
def attributeHeaders (lib : BytesLib) (attributes : StringMap MessageAttributeValue) :
    StringMap String :=
  attributes.filterMap fun (k, v) =>
    match v.stringValue with
    | some s => some (k, s)
    | none => if v.binaryValue.length > 0 then some (k, lib.base64 v.binaryValue) else none

variable (lib : BrokerLib)

def messageData (payload : Payload) : TriggerData :=
  let (body, bodyEncoding) := encodePayload lib.toBytesLib payload.body
  { source := "plugin"
    body := body
    bodyEncoding := bodyEncoding
    headers := redactStringMap lib.toLower
      (attributeHeaders lib.toBytesLib payload.messageAttributes) [] }

def BuildFlowRun (namespace_ triggerName flowRefName : String) (msg : Message) : FlowRun :=
  -- the traceparent is read before the redaction
  let tp := ((attributeHeaders lib.toBytesLib msg.messageAttributes).lookup "traceparent").getD ""
  triggeredFlowRun ⟨namespace_, FlowRunName triggerName (msg.messageId.getD "")⟩ triggerName .plugin
    flowRefName (messageData lib msg.toPayload)
    (if tp = "" then [] else [("kubezap.io/traceparent", tp)])

structure Options where
  maxMessages : Int := 0
  waitTimeSeconds : Int := 0
  retryBase : Duration := 0
  retryMax : Duration := 0

def Options.withDefaults (o : Options) : Options where
  maxMessages := if o.maxMessages ≤ 0 ∨ o.maxMessages > 10 then 10 else o.maxMessages
  waitTimeSeconds := if o.waitTimeSeconds < 0 ∨ o.waitTimeSeconds > 20 then 20 else o.waitTimeSeconds
  retryBase := if o.retryBase ≤ 0 then second else o.retryBase
  retryMax := if o.retryMax ≤ 0 then 30 * second else o.retryMax

structure Subscriber where
  namespace_ : String
  integrationName : String
  opts : Options

def NewSubscriber (namespace_ integrationName : String) (opts : Options) : Subscriber :=
  ⟨namespace_, integrationName, opts.withDefaults⟩

def Subscriber.Selects (s : Subscriber) (t : Trigger) : Bool :=
  t.key.namespace_ == s.namespace_ && t.spec.type == .plugin &&
    t.spec.plugin.any (·.integrationRef == s.integrationName) && t.spec.enabled

structure SubscriptionSnapshot where
  key : NamespacedName
  queueURL : String
  flowRefName : String
deriving DecidableEq

/-- What `Reconcile` starts a subscription of the Trigger with. -/
def snapshot (t : Trigger) : SubscriptionSnapshot where
  key := t.key
  queueURL := (t.spec.plugin.bind fun plugin => plugin.config.lookup "queueUrl").getD ""
  flowRefName := t.spec.flowRef

structure Origin where
  trigger : NamespacedName
  msg : Message

/-- `create` says for which message it is made and `deleteMessage` for which Trigger; that is not
part of the calls. -/
inductive Req
  | ctxErr
  | getQueueAttributes (queueURL : String)
  | receiveMessage (queueURL : String) (maxMessages waitTimeSeconds : Int)
  /-- `sleepCtx`, false when the context ended first -/
  | sleep (d : Duration)
  /-- `health.SetSession` -/
  | setSession (key : NamespacedName) (ok : Bool) (msg : String)
  | create (origin : Origin) (run : FlowRun)
  | deleteMessage (trigger : NamespacedName) (queueURL receiptHandle : String)

@[reducible] def Req.Reply : Req → Type
  | .ctxErr | .sleep _ => Bool
  | .setSession .. => Unit
  | .getQueueAttributes _ | .deleteMessage .. => Option String
  | .receiveMessage .. => Except String (List Message)
  | .create .. => CreateReply

abbrev SqsProgram := Program Req Req.Reply

abbrev Req.send (q : Req) : SqsProgram q.Reply := Program.request q

def nextBackoff (cur max : Duration) : Duration := if cur * 2 > max then max else cur * 2

def handleMessage (snap : SubscriptionSnapshot) (msg : Message) :
    SqsProgram Unit := do
  if msg.messageId.getD "" = "" then return
  let fr := BuildFlowRun lib snap.key.namespace_ snap.key.name snap.flowRefName msg
  match ← Req.send (.create ⟨snap.key, msg⟩ fr) with
  | .failed _ => return
  | .created | .alreadyExists =>
    -- the message comes again when this fails
    let _ ← Req.send (.deleteMessage snap.key snap.queueURL msg.receiptHandle)

/-- One batch; false when the context ended on the way. -/
def handleMessages (lib : BrokerLib) (snap : SubscriptionSnapshot) :
    List Message → SqsProgram Bool
  | [] => return true
  | msg :: rest => do
      if ← Req.send .ctxErr then return false
      handleMessage lib snap msg
      handleMessages lib snap rest

/-- Report an error of the queue and wait, then establish the session anew. -/
def retry (opts : Options) (snap : SubscriptionSnapshot) (err : String) (backoff : Duration)
    (again : Bool → Duration → SqsProgram Unit) : SqsProgram Unit := do
  if ← Req.send .ctxErr then return
  Req.send (.setSession snap.key false err)
  if ← Req.send (.sleep backoff) then again false (nextBackoff backoff opts.retryMax)

def receive (opts : Options) (snap : SubscriptionSnapshot) (backoff : Duration)
    (again : Bool → Duration → SqsProgram Unit) : SqsProgram Unit := do
  match ← Req.send (.receiveMessage snap.queueURL opts.maxMessages opts.waitTimeSeconds) with
  | .error err => retry opts snap err backoff again
  | .ok messages =>
    if ← handleMessages lib snap messages then again true opts.retryBase

def poll (lib : BrokerLib) (opts : Options) (snap : SubscriptionSnapshot) :
    Nat → (established : Bool) → (backoff : Duration) → SqsProgram Unit
  | 0, _, _ => return
  | rounds + 1, established, backoff => do
      if ← Req.send .ctxErr then return
      if established then receive lib opts snap backoff (poll lib opts snap rounds)
      else
        match ← Req.send (.getQueueAttributes snap.queueURL) with
        | some err => retry opts snap err backoff (poll lib opts snap rounds)
        | none =>
          Req.send (.setSession snap.key true "")
          receive lib opts snap opts.retryBase (poll lib opts snap rounds)

def subscription (s : Subscriber) (t : Trigger) (rounds : Nat) : SqsProgram Unit :=
  poll lib s.opts (snapshot t) rounds false s.opts.retryBase

structure World where
  flowRuns : FlowRunStore Origin
  /-- The messages for which `DeleteMessage` was called, by their ids, with the Triggers. -/
  deleted : List (NamespacedName × String)

def World.start : World := ⟨.empty, []⟩

/-- A lower-case UUID: hexadecimal digits in groups of 8, 4, 4, 4 and 12. -/
def isUUID (s : String) : Bool :=
  s.toList.length == 36 && s.toList.zipIdx.all fun (c, i) =>
    if i ∈ [8, 13, 18, 23] then c == '-'
    else ('0' ≤ c && c ≤ '9') || ('a' ≤ c && c ≤ 'f')

structure Queues where
  sent : String → Option Payload
  uuids : ∀ {id payload}, sent id = some payload → isUUID id
  /-- The id of the message that was received from the queue under the receipt handle. -/
  handles : (queueURL receiptHandle : String) → Option String

/-- A delivered message is one that was sent, under its receipt handle, in case it has an id. -/
def Queues.Delivers (queues : Queues) (queueURL : String) (msg : Message) : Prop :=
  ∀ id, msg.messageId = some id → id ≠ "" →
    queues.sent id = some msg.toPayload ∧ queues.handles queueURL msg.receiptHandle = some id

/-- `DeleteMessage` is for the message of its receipt handle, whether it succeeds or not. -/
def World.delete (queues : Queues) (w : World) (trigger : NamespacedName)
    (queueURL receiptHandle : String) : World :=
  { w with
    deleted := w.deleted ++ (queues.handles queueURL receiptHandle).toList.map (Prod.mk trigger) }

def Req.env (queues : Queues) : Env World Req.Reply
  | w, .create origin run, x, w' =>
    ∃ flowRuns, FlowRunStore.Create w.flowRuns origin run x flowRuns ∧
      w' = { w with flowRuns := flowRuns }
  | w, .deleteMessage trigger queueURL receiptHandle, _, w' =>
    w' = w.delete queues trigger queueURL receiptHandle
  | w, .receiveMessage queueURL _ _, .ok messages, w' =>
    (∀ msg ∈ messages, queues.Delivers queueURL msg) ∧ w' = w
  | w, _, _, w' => w' = w

def MessageName (key : NamespacedName) : Prop := ∃ x id, isUUID id ∧ key.name = x ++ "-msg-" ++ id

/-- Nobody else creates a FlowRun of such a name. -/
def World.Others (w w' : World) : Prop :=
  ∃ flowRuns, FlowRunStore.Elsewhere w.flowRuns flowRuns ∧ w' = { w with flowRuns := flowRuns } ∧
    FlowRunStore.Spares MessageName w.flowRuns flowRuns

/-- Names of Kubernetes objects without a dot that leave room for the rest of a FlowRun's name. -/
abbrev PluginName (name : String) : Prop := PlainName 212 name

/-- The plugins of any Integrations, with any Triggers as they were at some time. -/
def Subscribed (p : SqsProgram Unit) : Prop :=
  ∃ (s : Subscriber) (t : Trigger) (rounds : Nat), s.Selects t ∧ PluginName t.key.name ∧
    p = subscription lib s t rounds

/-- Subscriptions in any interleaving, each possibly cut short anywhere. -/
abbrev Runs (queues : Queues) : Pool World Req.Reply → Pool World Req.Reply → Prop :=
  Relation.ReflTransGen (Pool.Step (Req.env queues) (Subscribed lib) World.Others)

end KubeZap.AwsMessaging
