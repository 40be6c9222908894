import KubeZap.Gateway.BrokerLedger

/-! # Consumer groups and durable consumers

A kafka Trigger without a `consumerGroup` of its own joins the group named after it,
a nats Trigger with JetStream the durable consumer named after it. The broker hands
a message to one member of a group, so Triggers whose names give the same identity
take each other's messages. Neither identity holds the namespace, and the durable
name holds 24 characters of the Trigger's name.
-/

namespace KubeZap.Gateway

/-- What `startSubscription` connects for an enabled Trigger without an explicit group. -/
def KafkaMember (lib : WatcherLib) (m : Trigger × KafkaConfig) : Prop :=
  ∃ kafka watch spec values, m.1.spec.kafka = some kafka ∧ kafka.consumerGroup = "" ∧
    kafkaWatch m.1 = some watch ∧ kafkaConfig lib m.1 watch spec values = .ok m.2

/-- What `startSubscription` connects for an enabled Trigger with JetStream. -/
def NatsMember (lib : WatcherLib) (m : Trigger × NatsConfig) : Prop :=
  ∃ watch spec values, natsWatch m.1 = some watch ∧
    natsConfig lib m.1 watch spec values = .ok m.2 ∧ m.2.handler.isJetStream = true

/-- The broker hands a message to one of those that share an identity. -/
def OnePerIdentity {S I : Type} (members : List S) (identity : S → I) (receives : S → Prop) : Prop :=
  ∀ m ∈ members, ∃ m' ∈ members, identity m' = identity m ∧ receives m'

theorem kafkaMember_groupID {lib : WatcherLib} {m : Trigger × KafkaConfig}
    (h : KafkaMember lib m) : m.2.groupID = "kubezap-" ++ m.1.key.name := by
  obtain ⟨kafka, watch, spec, values, hkafka, hgroup, hwatch, hconfig⟩ := h
  have hdefault : watch.consumerGroup = "kubezap-" ++ m.1.key.name := by
    simp only [kafkaWatch, enabledSection, hkafka] at hwatch
    split at hwatch
    · cases hwatch
      exact if_pos hgroup
    · cases hwatch
  rw [(kafkaConfig_eq hconfig).2.1, hdefault]

theorem natsMember_durable {lib : WatcherLib} {m : Trigger × NatsConfig}
    (h : NatsMember lib m) : m.2.durable = some (Nats.durableName m.1.key.name) := by
  obtain ⟨watch, spec, values, hwatch, hconfig, hjet⟩ := h
  rw [(natsConfig_eq hconfig).2.1, if_pos hjet]

theorem durableName_eq_iff {name name' : String} :
    Nats.durableName name = Nats.durableName name' ↔
      name.toList.take 24 = name'.toList.take 24 := by
  have hcut (s : String) : (Nats.durableName s).toList = "kubezap-".toList ++ s.toList.take 24 := by
    rw [Nats.durableName, String.toList_ofList, String.toList_append, List.take_append]
    rfl
  rw [← String.toList_inj, hcut, hcut, List.append_right_inj]

/-- The members use different identities, and each of them receives every message that matches,
however the broker chooses. -/
def OwnMessages {S I : Type} (members : List S) (identity : S → I) : Prop :=
  (∀ m ∈ members, ∀ m' ∈ members, m ≠ m' → identity m ≠ identity m') ∧
    ∀ receives, OnePerIdentity members identity receives → ∀ m ∈ members, receives m

theorem ownMessages_iff {S I N : Type} {members : List S} {identity : S → I} {name : S → N}
    (h : ∀ m ∈ members, ∀ m' ∈ members, identity m = identity m' ↔ name m = name m') :
    OwnMessages members identity ↔ ∀ m ∈ members, ∀ m' ∈ members, name m = name m' → m = m' := by
  constructor
  · intro hown m hm m' hm' hname
    by_contra hne
    exact hown.1 m hm m' hm' hne ((h m hm m' hm').mpr hname)
  · intro hnames
    refine ⟨fun m hm m' hm' hne hsame => hne (hnames m hm m' hm' ((h m hm m' hm').mp hsame)), ?_⟩
    intro receives hone m hm
    obtain ⟨m', hm', hsame, hreceives⟩ := hone m hm
    rwa [hnames m hm m' hm' ((h m hm m' hm').mp hsame.symm)]

/-- Triggers take none of each other's messages exactly where their names differ, for JetStream
in the first 24 characters. -/
theorem triggers_receive_own_messages (lib : WatcherLib) :
    (∀ members : List (Trigger × KafkaConfig), (∀ m ∈ members, KafkaMember lib m) →
      (OwnMessages members (·.2.groupID) ↔
        ∀ m ∈ members, ∀ m' ∈ members, m.1.key.name = m'.1.key.name → m = m')) ∧
    ∀ members : List (Trigger × NatsConfig), (∀ m ∈ members, NatsMember lib m) →
      (OwnMessages members (·.2.durable) ↔ ∀ m ∈ members, ∀ m' ∈ members,
        m.1.key.name.toList.take 24 = m'.1.key.name.toList.take 24 → m = m') := by
  refine ⟨?_, ?_⟩
  · intro members hmembers
    refine ownMessages_iff fun m hm m' hm' => ?_
    rw [kafkaMember_groupID (hmembers m hm), kafkaMember_groupID (hmembers m' hm'),
      String.append_right_inj]
  · intro members hmembers
    refine ownMessages_iff fun m hm m' hm' => ?_
    rw [natsMember_durable (hmembers m hm), natsMember_durable (hmembers m' hm'),
      Option.some_inj, durableName_eq_iff]

def groupTrigger (namespace_ name : String) : Trigger where
  metadata := { name := ⟨namespace_, name⟩ }
  spec :=
    { type := .kafka
      enabled := true
      flowRef := "intake"
      kafka := some { integrationRef := "broker", topic := "orders" } }

def groupConfig (namespace_ name : String) : KafkaConfig where
  bootstrapServers := ["kafka:9092"]
  groupID := "kubezap-" ++ name
  topic := "orders"
  tls := none
  sasl := none
  handler := ⟨name, namespace_, "intake"⟩

theorem groupConfig_member (namespace_ name : String) :
    KafkaMember default (groupTrigger namespace_ name, groupConfig namespace_ name) :=
  ⟨_, _, { bootstrapServers := ["kafka:9092"] }, {}, rfl, rfl, rfl, rfl⟩

def streamTrigger (name : String) : Trigger where
  metadata := { name := ⟨"team-a", name⟩ }
  spec :=
    { type := .nats
      enabled := true
      flowRef := "intake"
      nats := some { integrationRef := "broker", subject := "orders" } }

def streamConfig (name : String) : NatsConfig where
  servers := "nats:4222"
  tls := none
  login := .anonymous
  subject := "orders"
  durable := some (Nats.durableName name)
  handler := ⟨name, "team-a", "intake", true⟩

theorem streamConfig_member (name : String) :
    NatsMember default (streamTrigger name, streamConfig name) :=
  ⟨_, { servers := ["nats:4222"], jetStream := true }, {}, rfl, rfl, rfl⟩

/-- Two Triggers of different names, of either broker. -/
theorem orders_and_returns_apart :
    OwnMessages [(groupTrigger "team-a" "orders", groupConfig "team-a" "orders"),
      (groupTrigger "team-b" "returns", groupConfig "team-b" "returns")] (·.2.groupID) ∧
    OwnMessages [(streamTrigger "orders", streamConfig "orders"),
      (streamTrigger "returns", streamConfig "returns")] (·.2.durable) :=
  ⟨((triggers_receive_own_messages default).1 _ (by simp [groupConfig_member])).mpr (by decide),
    ((triggers_receive_own_messages default).2 _ (by simp [streamConfig_member])).mpr (by decide)⟩

/-- The Triggers `orders` of two namespaces share a group, and two Triggers of one
namespace a durable consumer. -/
theorem identities_shared :
    KafkaMember default (groupTrigger "team-a" "orders", groupConfig "team-a" "orders") ∧
      KafkaMember default (groupTrigger "team-b" "orders", groupConfig "team-b" "orders") ∧
      (groupConfig "team-a" "orders").groupID = (groupConfig "team-b" "orders").groupID ∧
      NatsMember default (streamTrigger "order-created-notification-eu",
        streamConfig "order-created-notification-eu") ∧
      NatsMember default (streamTrigger "order-created-notification-us",
        streamConfig "order-created-notification-us") ∧
      (streamConfig "order-created-notification-eu").durable =
        (streamConfig "order-created-notification-us").durable :=
  ⟨groupConfig_member .., groupConfig_member .., rfl, streamConfig_member _, streamConfig_member _,
    congrArg some (by decide +kernel)⟩

end KubeZap.Gateway
