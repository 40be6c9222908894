import KubeZap.Gateway.AmqpConsumer

/-! # The FlowRuns of the AMQP 1.0 gateway

`MessageHandler10` of `gateway/amqp/handler.go` names the FlowRun of a message after the
message's id, or after the clock where there is none.
-/

namespace KubeZap.Amqp10

open Foundation

/-! ## Messages -/

/-- The types that a `MessageID` may have. -/
inductive MessageID
  | ulong (n : UInt64)
  | uuid (bytes : {bytes : Bytes // bytes.length = 16})
  | binary (bytes : Bytes)
  | string (s : String)
deriving DecidableEq

/-- `fmt.Sprintf("%v", id)` -/
def MessageID.text : MessageID → String
  | .ulong n => toString n
  | .uuid bytes =>
    let digits := hexDigits bytes.1
    let group (start length : Nat) := String.ofList ((digits.drop start).take length)
    "-".intercalate [group 0 8, group 8 4, group 12 4, group 16 4, group 20 12]
  | .binary bytes => "[" ++ " ".intercalate (bytes.map toString) ++ "]"
  | .string s => s

/-- `V` are the values of the application properties. -/
structure Message (V : Type) where
  messageID : Option MessageID := none
  data : List Bytes
  applicationProperties : StringMap V := []

/-- `msg.GetData()`: the first data section -/
def Message.GetData {V : Type} (msg : Message V) : Bytes := msg.data.head?.getD []

structure MessageHandler10 where
  triggerName : String
  triggerNamespace : String
  flowRefName : String

/-! ## The FlowRun of a message -/

def messageRunName (triggerName : String) (id : MessageID) : String :=
  sanitizeFlowRunName (triggerName ++ "-" ++ id.text)

def timeRunName (triggerName : String) (unixNano : Int) : String :=
  sanitizeFlowRunName (triggerName ++ "-" ++ toString unixNano)

/-- The FlowRun that `handleMessage` creates under the name. -/
def amqp10FlowRun {V : Type} (lib : AmqpLib V) (h : MessageHandler10) (msg : Message V)
    (flowRunName : String) : FlowRun :=
  let hdrs := redactStringMap lib.toLower
    (msg.applicationProperties.map fun (k, v) => (k, lib.sprint v)) []
  triggeredFlowRun ⟨h.triggerNamespace, flowRunName⟩ h.triggerName .amqp h.flowRefName
    { source := "amqp"
      body := storedText lib.toBytesLib msg.GetData
      headers := hdrs }

end KubeZap.Amqp10
