import KubeZap.Foundation.Protocol
import KubeZap.Gateway.Deliveries

/-! # The NATS gateway's consumer

`gateway/nats/handler.go`: the callback of a subscription, for core NATS and for
JetStream. Each delivery is a program of its own; any number of them run at a time, and
each may end anywhere. The JetStream server numbers the deliveries of a consumer and,
apart from that, the messages of a stream.
-/

namespace KubeZap.Nats

open Foundation

structure StreamPlace where
  stream : String
  sequence : Nat
deriving DecidableEq

/-- What the consumer reads of a `nats.MsgMetadata`, with the stream and the place in it. -/
structure MsgMetadata where
  place : StreamPlace
  /-- `Sequence.Consumer` -/
  consumerSequence : Nat

structure Payload where
  subject : String
  data : Bytes
  header : StringMap (List String) := []

structure Msg extends Payload where
  /-- `msg.Metadata()`, which fails for a message that no stream has delivered -/
  metadata : Except String MsgMetadata

structure MessageHandler where
  triggerName : String
  triggerNamespace : String
  flowRefName : String
  isJetStream : Bool
deriving DecidableEq

def MessageHandler.trigger (h : MessageHandler) : NamespacedName :=
  ⟨h.triggerNamespace, h.triggerName⟩

structure Origin where
  handler : MessageHandler
  msg : Msg

def jetStreamRunName (h : MessageHandler) (md : MsgMetadata) : String :=
  sanitizeFlowRunName (h.triggerName ++ "-seq-" ++ toString md.consumerSequence)

def coreRunName (h : MessageHandler) (now : Time) (random : Bytes) : String :=
  sanitizeFlowRunName (h.triggerName ++ "-" ++ toString now ++ "-" ++
    String.ofList (hexDigits random))

variable (lib : BrokerLib)

def natsFlowRun (h : MessageHandler) (msg : Msg) (flowRunName : String) : FlowRun :=
  triggeredFlowRun ⟨h.triggerNamespace, flowRunName⟩ h.triggerName .nats h.flowRefName
    { source := "nats"
      body := storedText lib.toBytesLib msg.data
      topic := msg.subject
      headers := redactHeaders lib.toLower msg.header [] }

/-- `create`, `ack` and `nak` say for which message they are made; for `create` that is not part
of the call. -/
inductive Req
  | receive (h : MessageHandler)
  /-- `time.Now()` and four random bytes -/
  | stamp
  | create (origin : Origin) (run : FlowRun)
  | ack (origin : Origin)
  | nak (origin : Origin)

@[reducible] def Req.Reply : Req → Type
  | .receive _ => Msg
  | .stamp => Time × Bytes
  | .create .. => CreateReply
  | .ack _ | .nak _ => Option String

abbrev NatsProgram := Program Req Req.Reply

abbrev Req.send (q : Req) : NatsProgram q.Reply := Program.request q

def flowRunName (h : MessageHandler) (msg : Msg) : NatsProgram (Except String String) :=
  if h.isJetStream then
    match msg.metadata with
    | .error err => return .error ("get JetStream metadata: " ++ err)
    | .ok md => return .ok (jetStreamRunName h md)
  else do
    let (now, random) ← Req.send .stamp
    return .ok (coreRunName h now random)

def handleMessage (h : MessageHandler) (msg : Msg) :
    NatsProgram (Option String) := do
  match ← flowRunName h msg with
  | .error err => return some err
  | .ok name =>
    match ← Req.send (.create ⟨h, msg⟩ (natsFlowRun lib h msg name)) with
    | .created | .alreadyExists => return none
    | .failed err => return some err

/-- `HandleMessage`, with whether an acknowledgement of either kind was sent; its errors are
dropped. -/
def onMessage (h : MessageHandler) (msg : Msg) : NatsProgram Bool := do
  match ← handleMessage lib h msg with
  | some _ =>
    if h.isJetStream then return (← Req.send (.nak ⟨h, msg⟩)).isNone
    else return false
  | none =>
    if h.isJetStream then return (← Req.send (.ack ⟨h, msg⟩)).isNone
    else return false

/-- A subscription of JetStream is made without `ManualAck`: `nats.go` acknowledges a message that
its callback leaves without an acknowledgement. -/
def delivery (h : MessageHandler) : NatsProgram Unit := do
  let msg ← Req.send (.receive h)
  let sent ← onMessage lib h msg
  if h.isJetStream && !sent then
    let _ ← Req.send (.ack ⟨h, msg⟩)

/-- The messages that the streams have stored; a place in a stream is given once. -/
abbrev Streams := StreamPlace → Option Payload

/-- At most 32 characters. -/
def durableName (triggerName : String) : String :=
  String.ofList (("kubezap-" ++ triggerName).toList.take 32)

structure ConsumerName where
  stream : String
  durable : String
deriving DecidableEq

structure World where
  flowRuns : FlowRunStore Origin
  /-- How often the present consumer of the name has delivered. -/
  delivered : ConsumerName → Nat
  /-- The deliveries whose acknowledgement has reached the server. -/
  acked : List Origin

def World.start : World := ⟨.empty, fun _ => 0, []⟩

def World.deliver (w : World) (consumer : ConsumerName) : World :=
  { w with delivered := Function.update w.delivered consumer (w.delivered consumer + 1) }

/-- The next delivery of a consumer, with the message at the place. -/
def World.nextMsg (w : World) (consumer : ConsumerName) (place : StreamPlace)
    (payload : Payload) : Msg :=
  { payload with metadata := .ok ⟨place, w.delivered consumer + 1⟩ }

/-- The server may deliver any message that a stream has, as often as it likes: a message that was
acknowledged comes again when the consumer is a new one. An acknowledgement may be lost,
whatever the client was told. -/
inductive Req.Step (streams : Streams) : Env World Req.Reply
  | jetStream {w : World} {h : MessageHandler} {place : StreamPlace} {payload : Payload} :
      h.isJetStream → streams place = some payload →
      Req.Step streams w (.receive h)
        (w.nextMsg ⟨place.stream, durableName h.triggerName⟩ place payload)
        (w.deliver ⟨place.stream, durableName h.triggerName⟩)
  | core {w : World} {h : MessageHandler} (payload : Payload) (err : String) : ¬ h.isJetStream →
      Req.Step streams w (.receive h) { payload with metadata := .error err } w
  | stamp (w : World) (x : Time × Bytes) : Req.Step streams w .stamp x w
  | create {w : World} {origin : Origin} {run : FlowRun} {x : CreateReply}
      {flowRuns : FlowRunStore Origin} : FlowRunStore.Create w.flowRuns origin run x flowRuns →
      Req.Step streams w (.create origin run) x { w with flowRuns := flowRuns }
  | ack (w : World) (origin : Origin) (x : Option String) :
      Req.Step streams w (.ack origin) x { w with acked := w.acked ++ [origin] }
  | ackLost (w : World) (origin : Origin) (x : Option String) : Req.Step streams w (.ack origin) x w
  | nak (w : World) (origin : Origin) (x : Option String) : Req.Step streams w (.nak origin) x w

/-- The FlowRuns are changed elsewhere, or a consumer is made anew. -/
inductive World.Others (w : World) : World → Prop
  | flowRuns {flowRuns : FlowRunStore Origin} : FlowRunStore.Elsewhere w.flowRuns flowRuns →
      Others w { w with flowRuns := flowRuns }
  | recreate (consumer : ConsumerName) :
      Others w { w with delivered := Function.update w.delivered consumer 0 }

/-- The handler of some Trigger, as it was then, waits for a delivery. -/
def Subscribed (named : String → Prop) (p : NatsProgram Unit) : Prop :=
  ∃ h : MessageHandler, named h.triggerName ∧ p = delivery lib h

/-- Deliveries in any interleaving, each possibly cut short anywhere. -/
abbrev Runs (named : String → Prop) (env : Env World Req.Reply) (others : World → World → Prop) :
    Pool World Req.Reply → Pool World Req.Reply → Prop :=
  Relation.ReflTransGen (Pool.Step env (Subscribed lib named) others)

end KubeZap.Nats
