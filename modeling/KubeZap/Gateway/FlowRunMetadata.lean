import KubeZap.Controller.CronScheduler
import KubeZap.Controller.ResourceWatcher
import KubeZap.Foundation.ObjectNames
import KubeZap.Gateway.Amqp10
import KubeZap.Gateway.Handler
import KubeZap.Gateway.KafkaConsumer
import KubeZap.Gateway.NatsConsumer
import KubeZap.Plugin.SqsSubscriber

/-! # The metadata of created FlowRuns

A FlowRun is named after its Trigger and what fired it, and labelled with the names of the Trigger
and the Flow. The API server has its own rules for names and for labels, and the same text serves
as both.
-/

namespace KubeZap

open Foundation

/-- The API server accepts the name and the labels. -/
structure FlowRun.WellFormed (run : FlowRun) : Prop where
  name : IsSubdomain run.metadata.name.name
  labels : ∀ label ∈ run.metadata.labels, IsLabelValue label.2

/-! ## Sanitized names -/

theorem sanitizeRune_nameRune (c : Char) : NameRune (sanitizeRune c) := by
  simp only [sanitizeRune]
  split
  · assumption
  · exact .inr (.inr rfl)

theorem sanitizeFlowRunName_toList (raw : String) :
    (sanitizeFlowRunName raw).toList = (raw.toList.map sanitizeRune).take 253 :=
  String.toList_ofList

theorem sanitizeFlowRunName_runes (raw : String) :
    ∀ c ∈ (sanitizeFlowRunName raw).toList, LabelRune c := by
  intro c hc
  rw [sanitizeFlowRunName_toList] at hc
  obtain ⟨d, -, rfl⟩ := List.mem_map.mp (List.mem_of_mem_take hc)
  exact (sanitizeRune_nameRune d).labelRune

section Sanitized

variable {trigger rest : String}

theorem sanitizeFlowRunName_length (raw : String) :
    (sanitizeFlowRunName raw).toList.length ≤ 253 := by
  rw [sanitizeFlowRunName_toList]
  exact List.length_take_le 253 _

theorem sanitizeFlowRunName_head (htrigger : IsSubdomain trigger) :
    ∃ c, (sanitizeFlowRunName (trigger ++ rest)).toList.head? = some c ∧ LowerAlnum c := by
  obtain ⟨c, hhead, hc⟩ := htrigger.head
  obtain ⟨cs, hcs⟩ := List.head?_eq_some_iff.mp hhead
  refine ⟨c, ?_, hc⟩
  rw [sanitizeFlowRunName_toList, String.toList_append, hcs]
  simp [sanitizeRune_of_nameRune (.of_lowerAlnum hc)]

theorem sanitizeFlowRunName_subdomain (htrigger : IsSubdomain trigger)
    (hlast : (sanitizeFlowRunName (trigger ++ rest)).toList.getLast? ≠ some '-') :
    IsSubdomain (sanitizeFlowRunName (trigger ++ rest)) := by
  obtain ⟨c, hhead, hc⟩ := sanitizeFlowRunName_head htrigger
  exact isSubdomain_of_runes (sanitizeFlowRunName_length _) (sanitizeFlowRunName_runes _) hhead hc
    hlast

theorem sanitizeFlowRunName_closed {n : Nat} (htrigger : IsSubdomain trigger)
    (hrest : Closes n rest) (hlength : trigger.toList.length + n ≤ 253) :
    IsSubdomain (sanitizeFlowRunName (trigger ++ rest)) := by
  apply sanitizeFlowRunName_subdomain htrigger
  obtain ⟨c, hlast, hc⟩ := hrest.tail.last
  have hwhole : (trigger ++ rest).toList.length ≤ 253 := by
    rw [String.toList_append, List.length_append]
    exact Nat.le_trans (Nat.add_le_add_left hrest.length _) hlength
  have hclast : (trigger ++ rest).toList.getLast? = some c := by
    rw [String.toList_append, List.getLast?_append, hlast, Option.some_or]
  rw [sanitizeFlowRunName_toList, List.take_of_length_le (by rwa [List.length_map]),
    List.getLast?_map, hclast, Option.map_some, sanitizeRune_of_nameRune (.of_lowerAlnum hc)]
  rintro ⟨⟩
  revert hc
  decide

theorem AwsMessaging.FlowRunName_subdomain {id : String} (htrigger : IsSubdomain trigger) :
    IsSubdomain (AwsMessaging.FlowRunName trigger id) := by
  have hname : (AwsMessaging.FlowRunName trigger id).toList =
      (sanitizeFlowRunName (trigger ++ ("-msg-" ++ id))).toList.rdropWhile (· = '-') := by
    rw [AwsMessaging.FlowRunName, AwsMessaging.trimDashes, String.toList_ofList,
      String.append_assoc]
  obtain ⟨c, hhead, hc⟩ := @sanitizeFlowRunName_head trigger ("-msg-" ++ id) htrigger
  obtain ⟨cs, hcs⟩ := List.head?_eq_some_iff.mp hhead
  have hkept := List.rdropWhile_prefix (fun c : Char => decide (c = '-'))
    (l := (sanitizeFlowRunName (trigger ++ ("-msg-" ++ id))).toList)
  have hdash : c ≠ '-' := by
    rintro rfl
    revert hc
    decide
  -- the first character is no dash, so something stays
  have hne : (AwsMessaging.FlowRunName trigger id).toList ≠ [] := by
    rw [hname, Ne, List.rdropWhile_eq_nil_iff]
    intro hall
    exact hdash (by simpa using hall c (by simp [hcs]))
  rw [← hname] at hkept
  refine isSubdomain_of_runes ?_ ?_ (c := c) ?_ hc ?_
  · exact Nat.le_trans hkept.length_le (sanitizeFlowRunName_length _)
  · exact fun d hd => sanitizeFlowRunName_runes _ d (hkept.subset hd)
  · obtain ⟨d, ds, hds⟩ := List.exists_cons_of_ne_nil hne
    rw [hds, hcs, List.cons_prefix_cons] at hkept
    rw [hds, List.head?_cons, hkept.1]
  · intro hlast
    have hstop := List.rdropWhile_last_not (fun c : Char => decide (c = '-'))
      (sanitizeFlowRunName (trigger ++ ("-msg-" ++ id))).toList (by rwa [← hname])
    rw [List.getLast?_eq_getLast_of_ne_nil hne] at hlast
    simp only [← hname] at hstop
    exact hstop (by simpa using hlast)

end Sanitized

/-! ## Random suffixes -/

/-- What `randomHex` returns: the source of randomness fills the buffer, or fails. -/
def RandomHex (length : Nat) (s : String) : Prop :=
  ∃ read : Option Bytes, (∀ bytes, read = some bytes → bytes.length = (length + 1) / 2) ∧
    s = randomHex length read

theorem RandomHex.closes {n : Nat} {s : String} (h : RandomHex n s) (hn : 0 < n) : Closes n s := by
  obtain ⟨read, hread, rfl⟩ := h
  cases read with
  | none =>
    have hlist : (randomHex n none).toList = List.replicate n '0' := String.toList_ofList
    refine closes_of_lowerAlnum ?_ ?_ ?_
    · rw [hlist, Ne, List.replicate_eq_nil_iff]
      omega
    · intro c hc
      rw [hlist, List.mem_replicate] at hc
      rw [hc.2]
      decide
    · rw [hlist, List.length_replicate]
  | some bytes =>
    have hbytes := hread bytes rfl
    have hlist : (randomHex n (some bytes)).toList = (hexDigits bytes).take n :=
      String.toList_ofList
    have hlength : ((hexDigits bytes).take n).length = n := by
      rw [List.length_take, hexDigits_length]
      omega
    refine closes_of_lowerAlnum ?_ ?_ ?_
    · rw [hlist]
      exact List.ne_nil_of_length_pos (by omega)
    · intro c hc
      rw [hlist] at hc
      exact hexDigits_lowerAlnum bytes c (List.mem_of_mem_take hc)
    · rw [hlist, hlength]

theorem closes_hexDigits {bytes : Bytes} (h : bytes.length = 4) :
    Closes 8 (String.ofList (hexDigits bytes)) := by
  have hlength := hexDigits_length bytes
  refine closes_of_lowerAlnum ?_ ?_ ?_
  · rw [String.toList_ofList]
    exact List.ne_nil_of_length_pos (by omega)
  · rw [String.toList_ofList]
    exact hexDigits_lowerAlnum bytes
  · rw [String.toList_ofList]
    omega

theorem trimDashes_sublist (l : List Char) : (trimDashes l).Sublist l :=
  (List.rdropWhile_prefix _ _).sublist.trans (List.dropWhile_sublist _)

theorem sanitizeName_runes (lib : GoLib) (s : String) :
    ∀ c ∈ (sanitizeName lib s).toList, LabelRune c := by
  intro c hc
  rw [sanitizeName, String.toList_ofList] at hc
  obtain ⟨d, -, rfl⟩ :=
    List.mem_map.mp (List.mem_of_mem_take ((trimDashes_sublist _).subset hc))
  split
  · rename_i hd
    refine NameRune.labelRune ?_
    simpa [NameRune, or_assoc] using hd
  · exact .inr rfl

theorem sanitizeName_length (lib : GoLib) (s : String) :
    (sanitizeName lib s).toList.length ≤ 32 := by
  rw [sanitizeName, String.toList_ofList]
  exact Nat.le_trans (trimDashes_sublist _).length_le (List.length_take_le 32 _)

/-! ## The paths that create FlowRuns -/

/-- The library functions of all creators; `V` are the values of AMQP tables. -/
structure EmissionLib (V : Type) where
  http : HttpLib
  broker : AmqpLib V
  controller : GoLib

def Amqp10.runName {V : Type} (h : Amqp10.MessageHandler10) (msg : Amqp10.Message V)
    (unixNano : Int) : String :=
  match msg.messageID with
  | some id => Amqp10.messageRunName h.triggerName id
  | none => Amqp10.timeRunName h.triggerName unixNano

/-- A FlowRun about to be created, by what its creator has in hand. -/
inductive Emission (V : Type)
  | kafka (h : MessageHandler) (msg : ConsumerMessage) (traceparent : String)
  | amqp091 (h : MessageHandler091) (tag : Nat) (msg : AmqpMessage V)
  | amqp10 (h : Amqp10.MessageHandler10) (msg : Amqp10.Message V) (unixNano : Int)
  | jetStream (h : Nats.MessageHandler) (msg : Nats.Msg) (md : Nats.MsgMetadata)
  | nats (h : Nats.MessageHandler) (msg : Nats.Msg) (now : Time) (random : Bytes)
  | sqs (trigger : NamespacedName) (flowRefName : String) (msg : AwsMessaging.Message)
  | webhook (h : WebhookHandler) (entry : RouteEntry) (body : Bytes) (x : Exchange)
  | cron (name : NamespacedName) (flowRef : String) (now : Time)
  | resource (trigger : Trigger) (watched : ResourceTrigger) (u : Unstructured)
      (eventType : WatchEventType) (inputs : EventInputs)

namespace Emission

variable {V : Type}

def flowRun (lib : EmissionLib V) : Emission V → FlowRun
  | kafka h msg traceparent => kafkaFlowRun lib.broker.toBrokerLib h msg traceparent
  | amqp091 h tag msg => amqpFlowRun lib.broker h tag msg
  | amqp10 h msg unixNano =>
    Amqp10.amqp10FlowRun lib.broker h msg (Amqp10.runName h msg unixNano)
  | jetStream h msg md =>
    Nats.natsFlowRun lib.broker.toBrokerLib h msg (Nats.jetStreamRunName h md)
  | nats h msg now random =>
    Nats.natsFlowRun lib.broker.toBrokerLib h msg (Nats.coreRunName h now random)
  | sqs trigger flowRefName msg => AwsMessaging.BuildFlowRun lib.broker.toBrokerLib
      trigger.namespace_ trigger.name flowRefName msg
  | webhook h entry body x => webhookFlowRun lib.http h entry body x
  | cron name flowRef now => cronFlowRun name flowRef now
  | resource trigger watched u eventType inputs =>
    resourceFlowRun lib.controller trigger watched u eventType inputs

def triggerName : Emission V → String
  | kafka h .. => h.triggerName
  | amqp091 h .. => h.triggerName
  | amqp10 h .. => h.triggerName
  | jetStream h .. | nats h .. => h.triggerName
  | sqs trigger .. => trigger.name
  | webhook _ entry .. => entry.triggerName
  | cron name .. => name.name
  | resource trigger .. => trigger.key.name

def flowRef : Emission V → String
  | kafka h .. => h.flowRefName
  | amqp091 h .. => h.flowRefName
  | amqp10 h .. => h.flowRefName
  | jetStream h .. | nats h .. => h.flowRefName
  | sqs _ flowRefName _ => flowRefName
  | webhook _ entry .. => entry.flowRef
  | cron _ flowRef _ => flowRef
  | resource trigger .. => trigger.spec.flowRef

/-- Numbers are in the range of their types, and random text is what its source returns. -/
def Typed : Emission V → Prop
  | kafka _ msg _ =>
    (-2 ^ 31 ≤ msg.partition ∧ msg.partition < 2 ^ 31) ∧ Int64Range msg.offset
  | amqp091 _ tag _ => tag < 2 ^ 64
  | amqp10 _ _ unixNano => Int64Range unixNano
  | jetStream _ _ md => md.consumerSequence < 2 ^ 64
  | nats _ _ now random => Int64Range now ∧ random.length = 4
  | sqs .. => True
  | webhook _ _ _ x => Int64Range x.namedAt ∧ RandomHex 8 x.random
  | cron _ _ now => Int64Range (unixSeconds now)
  | resource _ _ _ _ inputs =>
    Int64Range (unixSeconds inputs.namedAt) ∧ RandomHex 4 inputs.random

/-- The names of the Trigger and the Flow can be labels, and the last character of an AMQP 1.0
message id that a name of 253 characters has room for is a letter or a digit. -/
structure Labelled (e : Emission V) : Prop where
  trigger : e.triggerName.toList.length ≤ 63
  flow : IsLabelValue e.flowRef
  messageID : ∀ h msg unixNano id, e = amqp10 h msg unixNano → msg.messageID = some id →
    ∃ c ∈ (id.text.toList.take (252 - h.triggerName.toList.length)).getLast?,
      LowerAlnum (lowerRune c)

end Emission

/-! ## Names of one Trigger

A Trigger whose name can be a label leaves room for everything but a message id. -/

section Names

variable {V : Type} {trigger : String}

theorem closes_literal {m n : Nat} {s t : String} (ht : Closes n t)
    (hs : (s.toList.all fun c => LabelRune c) = true ∧ s.toList.length = m) :
    Closes (m + n) (s ++ t) :=
  ht.after (by simpa using hs.1) (Nat.le_of_eq hs.2)

theorem kafkaFlowRunName_subdomain {h : MessageHandler} {msg : ConsumerMessage}
    (hname : IsSubdomain h.triggerName) (hlength : h.triggerName.toList.length ≤ 63)
    (hpartition : Int64Range msg.partition) (hoffset : Int64Range msg.offset) :
    IsSubdomain (kafkaFlowRunName h msg) := by
  have hnumbers : Closes (21 + (8 + 21))
      (toString msg.partition ++ ("-offset-" ++ toString msg.offset)) :=
    (closes_int hpartition).append (closes_literal (closes_int hoffset) (by decide))
  have hrest : Closes (2 + (21 + (8 + 21)))
      ("-p" ++ (toString msg.partition ++ ("-offset-" ++ toString msg.offset))) :=
    closes_literal hnumbers (by decide)
  have hclosed := sanitizeFlowRunName_closed hname hrest (by omega)
  simpa only [kafkaFlowRunName, String.append_assoc] using hclosed

theorem amqpFlowRunName_subdomain {h : MessageHandler091} {tag : Nat}
    (hname : IsSubdomain h.triggerName) (hlength : h.triggerName.toList.length ≤ 63)
    (htag : tag < 2 ^ 64) : IsSubdomain (amqpFlowRunName h tag) := by
  have hrest : Closes (3 + 20) ("-dt" ++ toString tag) :=
    closes_literal (closes_nat htag) (by decide)
  have hclosed := sanitizeFlowRunName_closed hname hrest (by omega)
  simpa only [amqpFlowRunName, String.append_assoc] using hclosed

theorem sanitizeRune_ne_dash {c : Char} : sanitizeRune c ≠ '-' ↔ LowerAlnum (lowerRune c) := by
  have hdash : ¬ LowerAlnum '-' := by decide
  simp only [sanitizeRune]
  split
  next hrune =>
    refine ⟨fun hne => ?_, fun h heq => hdash (heq ▸ h)⟩
    rcases or_assoc.mpr hrune with h | h
    · exact h
    · exact absurd h hne
  next hrune => exact ⟨fun h => absurd rfl h, fun h => absurd (NameRune.of_lowerAlnum h) hrune⟩

/-- The name ends in what is left of the id, or in the dash before it. -/
theorem messageRunName_getLast (id : Amqp10.MessageID) (hlength : trigger.toList.length ≤ 63) :
    (Amqp10.messageRunName trigger id).toList.getLast? =
      (((id.text.toList.take (252 - trigger.toList.length)).getLast?).map sanitizeRune).or
        (some '-') := by
  have hfront : ((trigger ++ "-").toList.map sanitizeRune).length = trigger.toList.length + 1 := by
    rw [List.length_map, String.toList_append, List.length_append]
    rfl
  have hlast : ((trigger ++ "-").toList.map sanitizeRune).getLast? = some '-' := by
    rw [String.toList_append, List.map_append, List.getLast?_append]
    rfl
  have hroom : 253 - (trigger.toList.length + 1) = 252 - trigger.toList.length := by omega
  rw [Amqp10.messageRunName, sanitizeFlowRunName_toList, String.toList_append, List.map_append,
    List.take_append, hfront, List.take_of_length_le (by rw [hfront]; omega),
    List.getLast?_append, hlast, hroom, ← List.map_take, List.getLast?_map]

theorem messageRunName_ends (id : Amqp10.MessageID) (hlength : trigger.toList.length ≤ 63) :
    (Amqp10.messageRunName trigger id).toList.getLast? ≠ some '-' ↔
      ∃ c ∈ (id.text.toList.take (252 - trigger.toList.length)).getLast?,
        LowerAlnum (lowerRune c) := by
  rw [messageRunName_getLast id hlength]
  cases hlast : (id.text.toList.take (252 - trigger.toList.length)).getLast? with
  | none => simp
  | some c => simp [← sanitizeRune_ne_dash]

theorem Amqp10.runName_subdomain {h : Amqp10.MessageHandler10} {msg : Amqp10.Message V}
    {unixNano : Int} (hname : IsSubdomain h.triggerName)
    (hlength : h.triggerName.toList.length ≤ 63) (hnano : Int64Range unixNano)
    (hid : ∀ id, msg.messageID = some id →
      (Amqp10.messageRunName h.triggerName id).toList.getLast? ≠ some '-') :
    IsSubdomain (Amqp10.runName h msg unixNano) := by
  unfold Amqp10.runName
  cases hmsg : msg.messageID with
  | some id =>
    have hlast := hid id hmsg
    change IsSubdomain (Amqp10.messageRunName h.triggerName id)
    rw [Amqp10.messageRunName, String.append_assoc] at hlast ⊢
    exact sanitizeFlowRunName_subdomain hname hlast
  | none =>
    have hrest : Closes (1 + 21) ("-" ++ toString unixNano) :=
      closes_literal (closes_int hnano) (by decide)
    have hclosed := sanitizeFlowRunName_closed hname hrest (by omega)
    simpa only [Amqp10.timeRunName, String.append_assoc] using hclosed

theorem Nats.jetStreamRunName_subdomain {h : Nats.MessageHandler} {md : Nats.MsgMetadata}
    (hname : IsSubdomain h.triggerName) (hlength : h.triggerName.toList.length ≤ 63)
    (hseq : md.consumerSequence < 2 ^ 64) : IsSubdomain (Nats.jetStreamRunName h md) := by
  have hrest : Closes (5 + 20) ("-seq-" ++ toString md.consumerSequence) :=
    closes_literal (closes_nat hseq) (by decide)
  have hclosed := sanitizeFlowRunName_closed hname hrest (by omega)
  simpa only [Nats.jetStreamRunName, String.append_assoc] using hclosed

theorem closes_stamp {m : Nat} {t : Int} {random : String} (ht : Int64Range t)
    (hrandom : Closes m random) : Closes (1 + (21 + (1 + m)))
      ("-" ++ (toString t ++ ("-" ++ random))) :=
  closes_literal ((closes_int ht).append (closes_literal hrandom (by decide))) (by decide)

theorem Nats.coreRunName_subdomain {h : Nats.MessageHandler} {now : Time} {random : Bytes}
    (hname : IsSubdomain h.triggerName) (hlength : h.triggerName.toList.length ≤ 63)
    (hnow : Int64Range now) (hrandom : random.length = 4) :
    IsSubdomain (Nats.coreRunName h now random) := by
  have hclosed := sanitizeFlowRunName_closed hname
    (closes_stamp hnow (closes_hexDigits hrandom)) (by omega)
  simpa only [Nats.coreRunName, String.append_assoc] using hclosed

theorem webhookFlowRunName_subdomain {entry : RouteEntry} {x : Exchange}
    (hname : IsSubdomain entry.triggerName) (hlength : entry.triggerName.toList.length ≤ 63)
    (hnow : Int64Range x.namedAt) (hrandom : RandomHex 8 x.random) :
    IsSubdomain (webhookFlowRunName entry x) := by
  have hclosed := (closes_stamp hnow (hrandom.closes (by decide))).subdomain hname (by omega)
  simpa only [webhookFlowRunName, String.append_assoc] using hclosed

theorem cronFlowRun_subdomain {name : NamespacedName} {flowRef : String} {now : Time}
    (hname : IsSubdomain name.name) (hlength : name.name.toList.length ≤ 63)
    (hnow : Int64Range (unixSeconds now)) :
    IsSubdomain (cronFlowRun name flowRef now).metadata.name.name := by
  have hrest : Closes (1 + 21) ("-" ++ toString (unixSeconds now)) :=
    closes_literal (closes_int hnow) (by decide)
  have hclosed := hrest.subdomain hname (by omega)
  simpa only [cronFlowRun, triggeredFlowRun, String.append_assoc] using hclosed

theorem resourceFlowRun_subdomain {lib : GoLib} {trigger : Trigger} {resource : ResourceTrigger}
    {u : Unstructured} {eventType : WatchEventType} {inputs : EventInputs}
    (hname : IsSubdomain trigger.key.name) (hlength : trigger.key.name.toList.length ≤ 63)
    (hnow : Int64Range (unixSeconds inputs.namedAt)) (hrandom : RandomHex 4 inputs.random) :
    IsSubdomain
      (resourceFlowRun lib trigger resource u eventType inputs).metadata.name.name := by
  have hstamp := closes_stamp hnow (hrandom.closes (by decide))
  have hevent : (∀ c ∈ eventType.lower.toList, LabelRune c) ∧
      eventType.lower.toList.length ≤ 8 := by
    cases eventType <;> simp [WatchEventType.lower, LabelRune, LowerAlnum]
  have hrest := closes_literal (s := "-") (m := 1) ((closes_literal (s := "-") (m := 1)
    (hstamp.after hevent.1 hevent.2) (by decide)).after (sanitizeName_runes lib u.name.name)
    (sanitizeName_length lib u.name.name)) (by decide)
  have hclosed := hrest.subdomain hname (by omega)
  simpa only [resourceFlowRun, triggeredFlowRun, String.append_assoc] using hclosed

end Names

namespace Emission

variable {V : Type} {lib : EmissionLib V} {e : Emission V}

theorem name_subdomain (hname : IsSubdomain e.triggerName) (htyped : e.Typed)
    (hlabelled : e.Labelled) : IsSubdomain (e.flowRun lib).metadata.name.name := by
  have hlength := hlabelled.trigger
  cases e with
  | kafka h msg traceparent =>
    obtain ⟨⟨hlow, hhigh⟩, hoffset⟩ := htyped
    exact kafkaFlowRunName_subdomain hname hlength ⟨by omega, by omega⟩ hoffset
  | amqp091 h tag msg => exact amqpFlowRunName_subdomain hname hlength htyped
  | amqp10 h msg unixNano =>
    exact Amqp10.runName_subdomain hname hlength htyped fun id hid =>
      (messageRunName_ends id hlength).mpr (hlabelled.messageID h msg unixNano id rfl hid)
  | jetStream h msg md => exact Nats.jetStreamRunName_subdomain hname hlength htyped
  | nats h msg now random => exact Nats.coreRunName_subdomain hname hlength htyped.1 htyped.2
  | sqs trigger flowRefName msg => exact AwsMessaging.FlowRunName_subdomain hname
  | webhook h entry body x => exact webhookFlowRunName_subdomain hname hlength htyped.1 htyped.2
  | cron name flowRef now => exact cronFlowRun_subdomain hname hlength htyped
  | resource trigger watched u eventType inputs =>
    exact resourceFlowRun_subdomain hname hlength htyped.1 htyped.2

theorem labels_eq : ∃ type : TriggerType, (e.flowRun lib).metadata.labels =
    [("kubezap.io/trigger", e.triggerName), ("kubezap.io/trigger-type", type.text),
      ("kubezap.io/flow", e.flowRef)] := by
  cases e <;> exact ⟨_, rfl⟩

theorem labels_valid (hname : IsSubdomain e.triggerName) (hlabelled : e.Labelled) :
    ∀ label ∈ (e.flowRun lib).metadata.labels, IsLabelValue label.2 := by
  have htrigger := hname.isLabelValue hlabelled.trigger
  obtain ⟨type, hlabels⟩ := @labels_eq _ lib e
  have htype : IsLabelValue type.text :=
    IsSubdomain.isLabelValue (by cases type <;> decide) (by cases type <;> decide)
  intro label hlabel
  rw [hlabels] at hlabel
  simp only [List.mem_cons, List.not_mem_nil, or_false] at hlabel
  rcases hlabel with rfl | rfl | rfl
  · exact htrigger
  · exact htype
  · exact hlabelled.flow

theorem labelled_of_wellFormed (h : (e.flowRun lib).WellFormed) : e.Labelled := by
  obtain ⟨type, hlabels⟩ := @labels_eq _ lib e
  have hlabel := h.labels
  rw [hlabels] at hlabel
  have htrigger : e.triggerName.toList.length ≤ 63 :=
    (hlabel ("kubezap.io/trigger", e.triggerName) (by simp)).length
  refine ⟨htrigger, hlabel ("kubezap.io/flow", e.flowRef) (by simp), ?_⟩
  rintro handler msg unixNano id rfl hid
  refine (messageRunName_ends id htrigger).mp fun hdash => ?_
  have hname : (Emission.flowRun lib (amqp10 handler msg unixNano)).metadata.name.name =
      Amqp10.messageRunName handler.triggerName id := by
    change Amqp10.runName handler msg unixNano = _
    rw [Amqp10.runName, hid]
  have hsub := h.name
  rw [hname] at hsub
  have hlast := Subdomain.last_of_read hsub.2 hdash
  revert hlast
  decide

/-- The API server has no fault to find with the name and labels of a FlowRun, unless a name is too
long or has no label's characters or a message id leaves a dash at the end. -/
theorem flowRun_wellFormed (hname : IsSubdomain e.triggerName) (htyped : e.Typed) :
    (e.flowRun lib).WellFormed ↔ e.Labelled :=
  ⟨labelled_of_wellFormed, fun hlabelled =>
    ⟨name_subdomain hname htyped hlabelled, labels_valid hname hlabelled⟩⟩

end Emission

/-! ## Names that are refused -/

def plainEmission : EmissionLib String := ⟨plainHttp, default, default⟩

def binaryIdEmission : Emission String :=
  .amqp10 ⟨"orders", "default", "ship"⟩ { messageID := some (.binary [7]), data := [] } 0

def longEmission : Emission String :=
  .cron ⟨"default", String.ofList (List.replicate 64 'a')⟩ "ship" 0

/-- The closing bracket of an id becomes a dash at the end of the name, and the name of a Trigger
may be longer than a label. -/
theorem flowRun_metadata_refused :
    (IsSubdomain binaryIdEmission.triggerName ∧ binaryIdEmission.Typed ∧
      (binaryIdEmission.flowRun plainEmission).metadata.name.name = "orders--7-" ∧
      ¬ (binaryIdEmission.flowRun plainEmission).WellFormed) ∧
    (IsSubdomain longEmission.triggerName ∧ longEmission.Typed ∧
      ¬ (longEmission.flowRun plainEmission).WellFormed) := by
  refine ⟨⟨by decide, ⟨by decide, by decide⟩, by decide, fun h => ?_⟩, by decide,
    ⟨by decide, by decide⟩, fun h => ?_⟩
  · exact absurd h.name (by decide)
  · have hlabel := h.labels ("kubezap.io/trigger", longEmission.triggerName) (.head _)
    exact absurd hlabel.length (by decide)

def textIdEmission : Emission String :=
  .amqp10 ⟨"orders", "default", "ship"⟩ { messageID := some (.string "A.7"), data := [] } 0

theorem textId_wellFormed :
    (textIdEmission.flowRun plainEmission).metadata.name.name = "orders-a-7" ∧
      (textIdEmission.flowRun plainEmission).WellFormed := by
  have htyped : textIdEmission.Typed := ⟨by decide, by decide⟩
  refine ⟨by decide, (Emission.flowRun_wellFormed (by decide) htyped).mpr
    ⟨by decide, IsSubdomain.isLabelValue (by decide) (by decide), ?_⟩⟩
  rintro _ _ _ _ ⟨⟩ ⟨⟩
  exact ⟨'7', by decide, by decide⟩

end KubeZap
