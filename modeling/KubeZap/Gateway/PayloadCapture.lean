import KubeZap.Foundation.Base64
import KubeZap.Gateway.Amqp10
import KubeZap.Gateway.Handler
import KubeZap.Gateway.KafkaConsumer
import KubeZap.Gateway.NatsConsumer
import KubeZap.Plugin.SqsSubscriber

/-! # What is kept of a payload

Every receiver writes the payload of a message into a FlowRun, whose body is a JSON string. The
webhook and Kafka gateways and the SQS plugin write bytes that are no text as base64 and say
so; the AMQP and NATS gateways write `string(bytes)`, and JSON replaces what is not UTF-8.
-/

namespace KubeZap

open Foundation

/-- The bytes that the body of stored data stands for. -/
def TriggerData.bodyBytes (data : TriggerData) : Option Bytes :=
  if data.bodyEncoding = "base64" then Base64.decode data.body else some (textBytes data.body)

theorem bodyBytes_encodePayload {lib : BytesLib} (hlib : lib.base64 = Base64.encode)
    {data : TriggerData} {bytes : Bytes}
    (h : (data.body, data.bodyEncoding) = encodePayload lib bytes) :
    data.bodyBytes = some bytes := by
  unfold encodePayload at h
  cases htext : utf8Text bytes with
  | some text =>
    simp only [htext, Prod.mk.injEq] at h
    rw [TriggerData.bodyBytes, h.1, h.2, if_neg (by decide), textBytes_of_utf8Text htext]
  | none =>
    simp only [htext, Prod.mk.injEq] at h
    rw [TriggerData.bodyBytes, h.1, h.2, if_pos rfl, hlib, Base64.decode_encode]

theorem bodyBytes_storedText {lib : BytesLib} {data : TriggerData} {bytes : Bytes}
    (hencoding : data.bodyEncoding = "") (hbody : data.body = storedText lib bytes)
    (htext : (utf8Text bytes).isSome) : data.bodyBytes = some bytes := by
  obtain ⟨text, htext⟩ := Option.isSome_iff_exists.mp htext
  unfold TriggerData.bodyBytes
  rw [hencoding, if_neg (by decide), hbody, storedText, htext, Option.getD_some,
    textBytes_of_utf8Text htext]

/-- The library functions of all receivers; `V` are the values of AMQP tables. -/
structure CaptureLib (V : Type) where
  http : HttpLib
  broker : AmqpLib V

/-- `base64.StdEncoding` is the standard encoding. -/
structure CaptureLib.Standard {V : Type} (lib : CaptureLib V) : Prop where
  http : lib.http.base64 = Base64.encode
  broker : lib.broker.base64 = Base64.encode

inductive Receipt (V : Type)
  | webhook (h : WebhookHandler) (registry : RouteRegistry) (ct : CooldownTracker) (x : Exchange)
  | kafka (h : MessageHandler) (msg : ConsumerMessage) (traceparent : String)
  | amqp091 (h : MessageHandler091) (tag : Nat) (msg : AmqpMessage V)
  | amqp10 (h : Amqp10.MessageHandler10) (msg : Amqp10.Message V) (name : String)
  | nats (h : Nats.MessageHandler) (msg : Nats.Msg) (name : String)
  | sqs (trigger : NamespacedName) (flowRefName : String) (msg : AwsMessaging.Message)

namespace Receipt

variable {V : Type}

def flowRun (lib : CaptureLib V) : Receipt V → Option FlowRun
  | webhook h registry ct x => (serveHTTP lib.http h registry ct x).flowRun
  | kafka h msg traceparent => some (kafkaFlowRun lib.broker.toBrokerLib h msg traceparent)
  | amqp091 h tag msg => some (amqpFlowRun lib.broker h tag msg)
  | amqp10 h msg name => some (Amqp10.amqp10FlowRun lib.broker h msg name)
  | nats h msg name => some (Nats.natsFlowRun lib.broker.toBrokerLib h msg name)
  | sqs trigger flowRefName msg => some (AwsMessaging.BuildFlowRun lib.broker.toBrokerLib
      trigger.namespace_ trigger.name flowRefName msg)

def bytes : Receipt V → Bytes
  | webhook _ _ _ x => x.request.body.toOption.getD []
  | kafka _ msg _ => msg.value
  | amqp091 _ _ msg => msg.body
  | amqp10 _ msg _ => msg.data.flatten
  | nats _ msg _ => msg.data
  | sqs _ _ msg => msg.body

def kept : Receipt V → Bytes
  | webhook h registry ct x =>
    (webhook h registry ct x : Receipt V).bytes.take h.maxStoredBodyBytes
  | r => r.bytes

def redacts : Receipt V → Bool
  | webhook _ registry _ x => (registry.lookup x.request.path).any (·.redactBody)
  | _ => false

/-- The receiver writes base64 where it has to, or the payload is one piece of text. -/
def Kept : Receipt V → Prop
  | webhook .. | kafka .. | sqs .. => True
  | amqp091 _ _ msg => (utf8Text msg.body).isSome
  | amqp10 _ msg _ => (utf8Text msg.GetData).isSome ∧ msg.data.tail.flatten = []
  | nats _ msg _ => (utf8Text msg.data).isSome

variable {lib : CaptureLib V} {r : Receipt V} {run : FlowRun} {data : TriggerData}

theorem webhook_kept {h : WebhookHandler} {registry : RouteRegistry} {ct : CooldownTracker}
    {x : Exchange} (hlib : lib.Standard)
    (hrun : (serveHTTP lib.http h registry ct x).flowRun = some run)
    (hdata : run.spec.triggerData = some data)
    (hredacts : (registry.lookup x.request.path).any (·.redactBody) = false) :
    data.bodyBytes = some ((x.request.body.toOption.getD []).take h.maxStoredBodyBytes) ∧
      (data.bodyTruncated ↔ h.maxStoredBodyBytes < (x.request.body.toOption.getD []).length) := by
  obtain ⟨entry, body, hscreen, rfl⟩ := serveHTTP_screened hrun
  obtain ⟨hlookup, hbody, -⟩ := screen_passed hscreen
  have hplain : entry.redactBody = false := by simpa [hlookup] using hredacts
  cases hdata
  rw [hbody]
  refine ⟨bodyBytes_encodePayload hlib.http ?_, ?_⟩
  · show (redactedBody (encodePayload lib.http.toBytesLib (body.take h.maxStoredBodyBytes)).1
        entry.redactBody, if entry.redactBody then "utf8" else
        (encodePayload lib.http.toBytesLib (body.take h.maxStoredBodyBytes)).2) = _
    rw [hplain]
    rfl
  · simp [Except.toOption]

/-- The payload of a message can be read off its FlowRun: all of it, or of a webhook the part up to
the limit, with a mark where that is not all. -/
theorem payload_kept (hlib : lib.Standard) (hrun : r.flowRun lib = some run)
    (hdata : run.spec.triggerData = some data) (hredacts : r.redacts = false) (hkept : r.Kept) :
    data.bodyBytes = some r.kept ∧ (data.bodyTruncated ↔ r.kept.length < r.bytes.length) := by
  cases r with
  | webhook h registry ct x =>
    obtain ⟨hbytes, htruncated⟩ := webhook_kept hlib hrun hdata hredacts
    refine ⟨hbytes, htruncated.trans ?_⟩
    simp only [kept, bytes, List.length_take]
    omega
  | kafka h msg traceparent =>
    cases hrun
    cases hdata
    refine ⟨bodyBytes_encodePayload hlib.broker rfl, ?_⟩
    simp [kept]
  | amqp091 | nats =>
    cases hrun
    cases hdata
    refine ⟨bodyBytes_storedText rfl rfl hkept, ?_⟩
    simp [kept]
  | amqp10 h msg name =>
    cases hrun
    cases hdata
    have hbytes : msg.GetData = msg.data.flatten := by
      cases hsections : msg.data with
      | nil => simp [Amqp10.Message.GetData, hsections]
      | cons first rest =>
        have hrest : rest.flatten = [] := by simpa [hsections] using hkept.2
        rw [Amqp10.Message.GetData, hsections, List.flatten_cons, hrest, List.append_nil]
        rfl
    refine ⟨?_, by simp [kept]⟩
    show _ = some msg.data.flatten
    rw [← hbytes]
    exact bodyBytes_storedText rfl rfl hkept.1
  | sqs trigger flowRefName msg =>
    cases hrun
    cases hdata
    refine ⟨bodyBytes_encodePayload hlib.broker rfl, ?_⟩
    simp [kept, AwsMessaging.messageData]

end Receipt

def standardBytes : BytesLib where
  base64 := Base64.encode
  replaceInvalid bytes := String.ofList (bytes.map fun _ => '\uFFFD')

def standardCapture : CaptureLib String where
  http := { plainHttp with toBytesLib := standardBytes }
  broker := { (default : AmqpLib String) with toBytesLib := standardBytes }

/-- A request with the two bytes of one letter, where one byte is stored at most. -/
def cutLetter : Receipt String :=
  .webhook { maxStoredBodyBytes := 1 }
    ⟨fun _ => some
      { triggerName := "files", triggerNamespace := "team", flowRef := "store",
        flowNamespace := "team", allowedMethod := .post }⟩
    .new
    { plainPost "/files" 0 with
      request := { (plainPost "/files" 0).request with body := .ok [0xc3, 0xa9] } }

theorem cut_letter_kept : ∃ run data, cutLetter.flowRun standardCapture = some run ∧
    run.spec.triggerData = some data ∧ data.body = "ww==" ∧ data.bodyEncoding = "base64" ∧
    data.bodyBytes = some [0xc3] ∧ data.bodyTruncated := by
  have hend : (cutLetter.flowRun standardCapture).any (fun run => run.spec.triggerData.any
      fun data => data.body = "ww==" ∧ data.bodyEncoding = "base64") = true := by decide +kernel
  obtain ⟨run, hrun, hspec⟩ := (Option.any_eq_true _ _).mp hend
  obtain ⟨data, hdata, hbody⟩ := (Option.any_eq_true _ _).mp hspec
  obtain ⟨htext, hencoding⟩ := of_decide_eq_true hbody
  obtain ⟨hbytes, htruncated⟩ :=
    Receipt.payload_kept ⟨rfl, rfl⟩ hrun hdata (by decide) trivial
  exact ⟨run, data, hrun, hdata, htext, hencoding, hbytes, htruncated.mpr (by decide)⟩

def Receipt.stored (r : Receipt String) : Option Bytes :=
  ((r.flowRun standardCapture).bind (·.spec.triggerData)).bind (·.bodyBytes)

/-- A byte that is no text comes out of AMQP and NATS as the three bytes of U+FFFD, and the second
section of an AMQP 1.0 body not at all. -/
theorem binary_payload_replaced :
    (Receipt.amqp091 ⟨"files", "team", "store"⟩ 1 ⟨[0xff], [], "files"⟩).stored =
      some [0xef, 0xbf, 0xbd] ∧
    (Receipt.nats ⟨"files", "team", "store", true⟩
      ⟨⟨"files", [0xff], []⟩, .error "no metadata"⟩ "files-seq-1").stored =
      some [0xef, 0xbf, 0xbd] ∧
    (Receipt.amqp10 ⟨"files", "team", "store"⟩ { data := [[0xff]] } "files-1").stored =
      some [0xef, 0xbf, 0xbd] ∧
    (Receipt.amqp10 ⟨"files", "team", "store"⟩
      { data := [textBytes "a", textBytes "b"] } "files-2").stored = some (textBytes "a") := by
  decide +kernel

end KubeZap
