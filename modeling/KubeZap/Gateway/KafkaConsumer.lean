import KubeZap.Foundation.Protocol
import KubeZap.Gateway.Deliveries

/-! # The Kafka gateway's consumer

`gateway/kafka/handler.go`: one claim of a topic's partition is consumed message by
message. A claim is a program over its calls; any number of them run at a time, and each
may end anywhere.
-/

namespace KubeZap

open Foundation

structure RecordHeader where
  key : Bytes
  value : Bytes
deriving DecidableEq

/-- What the consumer reads of a `sarama.ConsumerMessage`. -/
structure ConsumerMessage where
  topic : String
  partition : Int
  offset : Int
  /-- `nil` for a record without a key. -/
  key : Option Bytes := none
  value : Bytes
  headers : List RecordHeader := []
deriving DecidableEq

structure MessageHandler where
  triggerName : String
  triggerNamespace : String
  flowRefName : String
deriving DecidableEq

def kafkaFlowRunName (h : MessageHandler) (msg : ConsumerMessage) : String :=
  sanitizeFlowRunName
    (h.triggerName ++ "-p" ++ toString msg.partition ++ "-offset-" ++ toString msg.offset)

def headerMap (lib : BytesLib) (headers : List RecordHeader) : StringMap String :=
  headers.foldl (fun hdrs rh => hdrs.set (storedText lib rh.key) (storedText lib rh.value)) []

def kafkaFlowRun (lib : BrokerLib) (h : MessageHandler) (msg : ConsumerMessage)
    (traceparent : String) : FlowRun :=
  let hdrs := redactStringMap lib.toLower (headerMap lib.toBytesLib msg.headers) []
  let (keyStr, keyEncoding) :=
    match msg.key with
    | none => ("", "")
    | some key => encodePayload lib.toBytesLib key
  let (bodyStr, bodyEncoding) := encodePayload lib.toBytesLib msg.value
  triggeredFlowRun ⟨h.triggerNamespace, kafkaFlowRunName h msg⟩ h.triggerName .kafka h.flowRefName
    { source := "kafka"
      body := bodyStr
      bodyEncoding := bodyEncoding
      headers := hdrs
      topic := msg.topic
      partition := msg.partition
      offset := msg.offset
      key := keyStr
      keyEncoding := keyEncoding }
    (if traceparent = "" then [] else [("kubezap.io/traceparent", traceparent)])

structure KafkaOrigin where
  handler : MessageHandler
  message : ConsumerMessage

/-- `create` and `mark` say for which message they are made; that is not part of the call. -/
inductive KafkaReq
  | startSpan (upstream : Option String)
  | create (origin : KafkaOrigin) (run : FlowRun)
  | mark (origin : KafkaOrigin)

@[reducible] def KafkaReq.Reply : KafkaReq → Type
  | .startSpan _ => String
  | .create .. => CreateReply
  | .mark _ => Unit

abbrev KafkaProgram := Program KafkaReq KafkaReq.Reply

abbrev KafkaReq.send (q : KafkaReq) : KafkaProgram q.Reply := Program.request q

def kafkaTraceContext (lib : BytesLib) (msg : ConsumerMessage) : Option String :=
  ((msg.headers.find? fun hdr => utf8Text hdr.key == some "traceparent").map
    fun hdr => storedText lib hdr.value).filter (· ≠ "")

def handleMessage (lib : BrokerLib) (h : MessageHandler) (msg : ConsumerMessage) :
    KafkaProgram (Option String) := do
  let traceparent ← KafkaReq.send (.startSpan (kafkaTraceContext lib.toBytesLib msg))
  match ← KafkaReq.send (.create ⟨h, msg⟩ (kafkaFlowRun lib h msg traceparent)) with
  | .created | .alreadyExists => return none
  | .failed err => return some err

/-- An error of `handleMessage` is logged and the message is marked all the same. -/
def consumeClaim (lib : BrokerLib) (h : MessageHandler) : List ConsumerMessage → KafkaProgram Unit
  | [] => return
  | msg :: rest => do
      let _ ← handleMessage lib h msg
      KafkaReq.send (.mark ⟨h, msg⟩)
      consumeClaim lib h rest

structure KafkaWorld where
  flowRuns : FlowRunStore KafkaOrigin
  marked : List KafkaOrigin

def KafkaReq.env : Env KafkaWorld KafkaReq.Reply
  | w, .startSpan _, _, w' => w' = w
  | w, .create origin run, x, w' =>
    ∃ flowRuns, FlowRunStore.Create w.flowRuns origin run x flowRuns ∧
      w' = { w with flowRuns := flowRuns }
  | w, .mark origin, _, w' => w' = { w with marked := w.marked ++ [origin] }

/-- The messages of the broker: a place in a partition is given once. -/
structure BrokerLog where
  has : ConsumerMessage → Prop
  unique : ∀ {msg msg'}, has msg → has msg' → msg.topic = msg'.topic →
    msg.partition = msg'.partition → msg.offset = msg'.offset → msg = msg'

/-- A claim of some messages, by the handler of some Trigger as it was then; `claimed` says which
messages come to which handlers. -/
def BrokerLog.Claims (lib : BrokerLib) (log : BrokerLog) (claimed : KafkaOrigin → Prop)
    (p : KafkaProgram Unit) : Prop :=
  ∃ h msgs, (∀ msg ∈ msgs, log.has msg ∧ claimed ⟨h, msg⟩) ∧ p = consumeClaim lib h msgs

def KafkaWorld.start : KafkaWorld := ⟨.empty, []⟩

def KafkaWorld.Others (w w' : KafkaWorld) : Prop :=
  ∃ flowRuns, FlowRunStore.Elsewhere w.flowRuns flowRuns ∧ w' = { w with flowRuns := flowRuns }

/-- Claims in any interleaving, each possibly cut short anywhere. -/
abbrev KafkaRuns (lib : BrokerLib) (log : BrokerLog) (claimed : KafkaOrigin → Prop)
    (env : Env KafkaWorld KafkaReq.Reply) (others : KafkaWorld → KafkaWorld → Prop) :
    Pool KafkaWorld KafkaReq.Reply → Pool KafkaWorld KafkaReq.Reply → Prop :=
  Relation.ReflTransGen (Pool.Step env (log.Claims lib claimed) others)

end KubeZap
