import KubeZap.Foundation.IdleCache
import KubeZap.Controller.StepIO

/-! # Publishing to Kafka

`publishToKafka` and the producers it keeps between calls. A producer is kept under
the list of bootstrap servers alone, so a call may be given one that was made for
another Integration, or before the Integration or its Secrets changed. The cache is
the one of `IdleCache`, and its rule says when that does not happen.
-/

namespace KubeZap

open Foundation
open Foundation.IdleCache (Cache Usage)

/-! ## Producers -/

/-- `tls.Config` -/
structure TLSClientConfig where
  insecureSkipVerify : Bool
  rootCAs : Option String := none
  certificates : List (String × String) := []
deriving DecidableEq

/-- `config.Net.SASL` -/
structure SASLClientConfig where
  mechanism : SASLMechanism
  user : String
  password : String
deriving DecidableEq

structure KafkaSettings where
  tls : Option TLSClientConfig
  sasl : Option SASLClientConfig
deriving DecidableEq

/-- A `sarama.SyncProducer`, by what it was made from. -/
structure Producer where
  bootstrapServers : List String
  settings : KafkaSettings

structure ProducerMessage where
  topic : String
  value : String
  headers : StringMap String

/-- One call of `publishToKafka`: its arguments, what the cluster holds while it
runs, its readings of the clock, and the answers of the Kafka client. -/
structure KafkaPublish where
  integration : Integration
  kafka : KafkaIntegrationSpec
  /-- the caller has looked at `Spec.Kafka` -/
  kafka_eq : integration.kafka = some kafka
  topic : String
  body : String
  headers : StringMap String
  secrets : NamespacedName → Except ReadError (StringMap String)
  checkedAt : Time
  createdAt : Time
  sentAt : Time
  /-- the error of `sarama.NewSyncProducer` -/
  dial : Producer → Option String
  /-- `SendMessage`: partition and offset, or its error -/
  deliver : Producer → ProducerMessage → Except String (Int × Int)

namespace KafkaPublish

variable (lib : GoLib) (c : KafkaPublish)

def namespace_ : String := c.integration.name.namespace_

def name : String := c.integration.name.name

def brokerKey : String := ",".intercalate c.kafka.bootstrapServers

def message : ProducerMessage := ⟨c.topic, c.body, c.headers⟩

def fetch (ref : KeySelector) : Except Err String :=
  keyOf lib "secret" ref (c.secrets ⟨c.namespace_, ref.name⟩)

/-- The TLS part of the configuration. `ClientCertSecretRef` is not looked at. -/
def tlsConfig : Except Err (Option TLSClientConfig) :=
  match c.kafka.tls with
  | none => .ok none
  | some tls =>
    if tls.enabled then
      match tls.caSecretRef with
      | none => .ok (some { insecureSkipVerify := tls.insecureSkipVerify })
      | some ref =>
        match c.fetch lib ref with
        | .error err =>
          .error (.wrap ("reading CA cert secret for integration " ++ lib.quote c.name ++ ": ")
            err)
        | .ok caPEM =>
          if lib.appendCertsFromPEM caPEM then
            .ok (some { insecureSkipVerify := tls.insecureSkipVerify, rootCAs := some caPEM })
          else
            .error (.text ("failed to parse CA certificate from secret " ++ ref.name ++
              " key " ++ ref.key))
    else .ok none

def fetchSASL (what : String) (ref : KeySelector) : Except Err String :=
  (c.fetch lib ref).mapError
    (.wrap ("reading SASL " ++ what ++ " secret for integration " ++ lib.quote c.name ++ ": "))

def saslConfig : Except Err (Option SASLClientConfig) :=
  match c.kafka.sasl with
  | none => .ok none
  | some sasl =>
    match c.fetchSASL lib "username" sasl.usernameSecretRef with
    | .error err => .error err
    | .ok username =>
      match c.fetchSASL lib "password" sasl.passwordSecretRef with
      | .error err => .error err
      | .ok password =>
        match sasl.mechanism with
        | .other mechanism =>
          .error (.text ("unsupported SASL mechanism " ++ lib.quote mechanism ++
            " for integration " ++ lib.quote c.name))
        | mechanism => .ok (some ⟨mechanism, username, password⟩)

/-- The part of `getOrCreateKafkaProducer` that makes a producer. -/
def newProducer : Except Err Producer :=
  match c.tlsConfig lib with
  | .error err => .error err
  | .ok tls =>
    match c.saslConfig lib with
    | .error err => .error err
    | .ok sasl =>
      match c.dial ⟨c.kafka.bootstrapServers, ⟨tls, sasl⟩⟩ with
      | some err =>
        .error (.wrap ("creating kafka producer for integration " ++ lib.quote c.name ++ ": ")
          (.text err))
      | none => .ok ⟨c.kafka.bootstrapServers, ⟨tls, sasl⟩⟩

end KafkaPublish

/-! ## The cache -/

def kafkaProducerIdleTTL : Duration := 10 * minute

/-- `kafkaProducers` and `kafkaProducerLastUsed` -/
abbrev KafkaCache := Cache String Producer

section Publish

variable (lib : GoLib) (c : KafkaPublish)

def createKafkaProducer (brokerKey : String) (cache : KafkaCache) :
    Except Err Producer × KafkaCache :=
  match c.newProducer lib with
  | .error err => (.error err, cache)
  | .ok p => (.ok p, cache.put brokerKey p c.createdAt)

def getOrCreateKafkaProducer (brokerKey : String) (cache : KafkaCache) :
    Except Err Producer × KafkaCache :=
  match cache.value brokerKey with
  | some p =>
    -- a last use that is not recorded is the zero time, which is long ago
    if cache.live kafkaProducerIdleTTL brokerKey c.checkedAt then (.ok p, cache)
    else createKafkaProducer lib c brokerKey (cache.evict brokerKey)
  | none => createKafkaProducer lib c brokerKey cache

def publishToKafka (cache : KafkaCache) : Except Err (StringMap String) × KafkaCache :=
  match getOrCreateKafkaProducer lib c c.brokerKey cache with
  | (.error err, cache) => (.error err, cache)
  | (.ok producer, cache) =>
    match c.deliver producer c.message with
    | .error sendErr =>
      (.error (.wrap ("sending kafka message to topic " ++ lib.quote c.topic ++ ": ")
        (.text sendErr)), cache.evict c.brokerKey)
    | .ok (part, offset) =>
      (.ok [("partition", toString part), ("offset", toString offset)],
        cache.touch c.brokerKey c.sentAt)

/-- The producer through which a call sends its message, if it comes to that. -/
def sender (cache : KafkaCache) : Option Producer :=
  (getOrCreateKafkaProducer lib c c.brokerKey cache).1.toOption

/-- The calls of a sequence that send their message, each with its producer. -/
def kafkaSends (cache : KafkaCache) : List KafkaPublish → List (KafkaPublish × Producer)
  | [] => []
  | c :: cs => ((sender lib c cache).map (c, ·)).toList ++ kafkaSends (publishToKafka lib c cache).2 cs

end Publish

/-! ## The cache is an idle cache -/

def kafkaUsage (lib : GoLib) : Usage KafkaPublish String Producer where
  key := KafkaPublish.brokerKey
  checkedAt := KafkaPublish.checkedAt
  createdAt := KafkaPublish.createdAt
  usedAt := KafkaPublish.sentAt
  make c := (c.newProducer lib).toOption
  succeeds c p := (c.deliver p c.message).isOk

section Refinement

variable {lib : GoLib} {c : KafkaPublish} {cache : KafkaCache}

@[simp] theorem kafkaUsage_key : (kafkaUsage lib).key c = c.brokerKey := rfl

@[simp] theorem kafkaUsage_checkedAt : (kafkaUsage lib).checkedAt c = c.checkedAt := rfl

@[simp] theorem kafkaUsage_usedAt : (kafkaUsage lib).usedAt c = c.sentAt := rfl

@[simp] theorem kafkaUsage_succeeds {p : Producer} :
    (kafkaUsage lib).succeeds c p = (c.deliver p c.message).isOk := rfl

theorem createKafkaProducer_eq :
    ((createKafkaProducer lib c c.brokerKey cache).1.toOption,
      (createKafkaProducer lib c c.brokerKey cache).2) =
      IdleCache.create (kafkaUsage lib) c cache := by
  unfold createKafkaProducer IdleCache.create
  cases h : c.newProducer lib <;> simp [kafkaUsage, h, Except.toOption]

theorem getOrCreateKafkaProducer_eq :
    ((getOrCreateKafkaProducer lib c c.brokerKey cache).1.toOption,
      (getOrCreateKafkaProducer lib c c.brokerKey cache).2) =
      IdleCache.take (kafkaUsage lib) kafkaProducerIdleTTL c cache := by
  unfold getOrCreateKafkaProducer IdleCache.take
  rw [kafkaUsage_key, kafkaUsage_checkedAt]
  cases cache.value c.brokerKey with
  | none => exact createKafkaProducer_eq
  | some p =>
    dsimp only
    split
    · rfl
    · exact createKafkaProducer_eq

theorem publishToKafka_eq :
    (sender lib c cache, (publishToKafka lib c cache).2) =
      IdleCache.use (kafkaUsage lib) kafkaProducerIdleTTL c cache := by
  have htake := @getOrCreateKafkaProducer_eq lib c cache
  unfold IdleCache.use publishToKafka sender
  rw [← htake]
  obtain ⟨x, cache'⟩ := getOrCreateKafkaProducer lib c c.brokerKey cache
  cases x with
  | error err => rfl
  | ok p =>
    cases h : c.deliver p c.message <;> simp [h, Except.toOption, Except.isOk, Except.toBool]

theorem kafkaSends_eq (cs : List KafkaPublish) (cache : KafkaCache) :
    kafkaSends lib cache cs = IdleCache.served (kafkaUsage lib) kafkaProducerIdleTTL cache cs := by
  induction cs generalizing cache with
  | nil => rfl
  | cons c cs ih =>
    unfold kafkaSends IdleCache.served
    rw [← publishToKafka_eq, ih]

end Refinement

/-! ## What an Integration holds -/

namespace KafkaPublish

variable (c : KafkaPublish)

def secret (ref : KeySelector) : Option String :=
  (c.secrets ⟨c.namespace_, ref.name⟩).toOption.bind (·.lookup ref.key)

def heldCertificates (tls : KafkaTLSConfig) : Option (List (String × String)) :=
  match tls.clientCertSecretRef with
  | none => some []
  | some name => do
      let cert ← c.secret ⟨name, "tls.crt"⟩
      let key ← c.secret ⟨name, "tls.key"⟩
      pure [(cert, key)]

def heldTLS : Option (Option TLSClientConfig) :=
  match c.kafka.tls with
  | none => some none
  | some tls =>
    if tls.enabled then do
      let rootCAs ← tls.caSecretRef.elim (some none) fun ref => (c.secret ref).map some
      let certificates ← c.heldCertificates tls
      pure (some ⟨tls.insecureSkipVerify, rootCAs, certificates⟩)
    else some none

def heldSASL : Option (Option SASLClientConfig) :=
  match c.kafka.sasl with
  | none => some none
  | some sasl => do
      let user ← c.secret sasl.usernameSecretRef
      let password ← c.secret sasl.passwordSecretRef
      pure (some ⟨sasl.mechanism, user, password⟩)

/-- The settings that the Integration and its Secrets hold while the call runs, if
its Secrets have everything it refers to. -/
def held : Option KafkaSettings := do
  let tls ← c.heldTLS
  let sasl ← c.heldSASL
  pure ⟨tls, sasl⟩

def asksForCertificate : Bool :=
  c.kafka.tls.any fun tls => tls.enabled && tls.clientCertSecretRef.isSome

variable {lib : GoLib} {c}

theorem fetch_ok {ref : KeySelector} {value : String} (h : c.fetch lib ref = .ok value) :
    c.secret ref = some value := by
  unfold fetch keyOf at h
  unfold secret
  cases hs : c.secrets ⟨c.namespace_, ref.name⟩ with
  | error e => rw [hs] at h; cases h
  | ok data =>
    rw [hs] at h
    cases hv : data.lookup ref.key with
    | none => simp [hv] at h
    | some val => simpa [hv, Except.toOption] using h

theorem fetchSASL_ok {what value : String} {ref : KeySelector}
    (h : c.fetchSASL lib what ref = .ok value) : c.secret ref = some value := by
  unfold fetchSASL at h
  cases hf : c.fetch lib ref with
  | error err => rw [hf] at h; cases h
  | ok val =>
    rw [hf] at h
    cases h
    exact fetch_ok hf

theorem tlsConfig_held {tls : Option TLSClientConfig} (h : c.tlsConfig lib = .ok tls)
    (hcert : c.asksForCertificate = false) : c.heldTLS = some tls := by
  unfold tlsConfig at h
  unfold asksForCertificate at hcert
  unfold heldTLS
  cases hspec : c.kafka.tls with
  | none =>
    rw [hspec] at h
    cases h
    rfl
  | some spec =>
    rw [hspec] at h hcert
    dsimp only at h ⊢
    by_cases hon : spec.enabled = true
    · have hnone : spec.clientCertSecretRef = none := by simpa [hon] using hcert
      rw [if_pos hon] at h ⊢
      simp only [heldCertificates, hnone]
      cases hca : spec.caSecretRef with
      | none =>
        rw [hca] at h
        cases h
        rfl
      | some ref =>
        rw [hca] at h
        dsimp only at h
        split at h
        · cases h
        · rename_i caPEM hfetch
          split at h
          · cases h
            simp [fetch_ok hfetch]
          · cases h
    · rw [if_neg hon] at h ⊢
      cases h
      rfl

theorem saslConfig_held {sasl : Option SASLClientConfig} (h : c.saslConfig lib = .ok sasl) :
    c.heldSASL = some sasl := by
  unfold saslConfig at h
  unfold heldSASL
  cases hspec : c.kafka.sasl with
  | none =>
    rw [hspec] at h
    cases h
    rfl
  | some spec =>
    rw [hspec] at h
    dsimp only at h ⊢
    split at h
    · cases h
    · rename_i username huser
      split at h
      · cases h
      · rename_i password hpassword
        simp only [fetchSASL_ok huser, fetchSASL_ok hpassword]
        cases hmech : spec.mechanism <;> rw [hmech] at h <;> cases h <;> rfl

theorem newProducer_held {p : Producer} (h : c.newProducer lib = .ok p)
    (hcert : c.asksForCertificate = false) : c.held = some p.settings := by
  unfold newProducer at h
  split at h
  · cases h
  · rename_i tls htls
    split at h
    · cases h
    · rename_i sasl hsasl
      split at h
      · cases h
      · cases h
        simp [held, tlsConfig_held htls hcert, saslConfig_held hsasl]

end KafkaPublish

/-! ## Every sequence of calls -/

/-- Whenever a call finds the producer of the last call to the same servers still
live, both hold the same settings. -/
def SettingsSteady : List KafkaPublish → Prop
  | [] => True
  | c :: cs =>
    (∀ d ∈ cs.find? fun d => d.brokerKey = c.brokerKey,
      d.checkedAt - c.sentAt ≤ kafkaProducerIdleTTL → d.held = c.held) ∧ SettingsSteady cs

instance decidableSettingsSteady : (cs : List KafkaPublish) → Decidable (SettingsSteady cs)
  | [] => .isTrue trivial
  | _ :: cs =>
    have := decidableSettingsSteady cs
    inferInstanceAs (Decidable (_ ∧ _))

theorem SettingsSteady.steady {lib : GoLib} {cs : List KafkaPublish} (h : SettingsSteady cs) :
    IdleCache.Steady (kafkaUsage lib) kafkaProducerIdleTTL
      (fun c p => c.held = some p.settings) cs := by
  induction cs with
  | nil => trivial
  | cons c cs ih =>
    refine ⟨fun d hd hlive p hp => ?_, ih h.2⟩
    exact (h.1 d hd hlive).trans hp

/-- In every sequence of calls in which no Integration asks for a client certificate
and calls to the same servers hold the same settings while their producer is live,
each message is sent through a producer with the settings of its own Integration. -/
theorem kafka_sends_with_own_settings {lib : GoLib} {cs : List KafkaPublish}
    (hcert : ∀ c ∈ cs, c.asksForCertificate = false) (hsteady : SettingsSteady cs) :
    ∀ o ∈ kafkaSends lib .empty cs, o.1.held = some o.2.settings := by
  rw [kafkaSends_eq]
  refine IdleCache.served_right (fun c hc p hp => ?_) hsteady.steady
  have hmade : c.newProducer lib = .ok p := by
    cases hn : c.newProducer lib with
    | error err => simp [kafkaUsage, hn, Except.toOption] at hp
    | ok p' => simpa [kafkaUsage, hn, Except.toOption] using hp
  exact KafkaPublish.newProducer_held hmade (hcert c hc)

def teamIntegration (team : String) (servers : List String) : Integration where
  name := ⟨team, "events"⟩
  type := .kafka
  kafka := some
    { bootstrapServers := servers
      sasl := some ⟨.plain, ⟨"kafka", "user"⟩, ⟨"kafka", "password"⟩⟩ }

def teamPublish (team : String) (servers : List String) : KafkaPublish where
  integration := teamIntegration team servers
  kafka := _
  kafka_eq := rfl
  topic := "orders"
  body := ""
  headers := []
  secrets name := .ok [("user", name.namespace_), ("password", name.namespace_ ++ "-password")]
  checkedAt := 0
  createdAt := 0
  sentAt := 0
  dial _ := none
  deliver _ _ := .ok (0, 0)

def ownClusters : List KafkaPublish :=
  [teamPublish "red" ["red:9092"], teamPublish "blue" ["blue:9092"]]

def sharedCluster : List KafkaPublish :=
  [teamPublish "red" ["kafka:9092"], teamPublish "blue" ["kafka:9092"]]

theorem kafka_sends_with_own_settings_apart :
    (kafkaSends default .empty ownClusters).length = 2 ∧
      ∀ o ∈ kafkaSends default .empty ownClusters, o.1.held = some o.2.settings :=
  ⟨by decide +kernel, kafka_sends_with_own_settings (by decide +kernel) (by decide +kernel)⟩

/-- The message of `blue` is sent with the user and password of `red`. -/
theorem kafka_sends_with_foreign_settings :
    ∃ (cs : List KafkaPublish) (lib : GoLib), ∃ o ∈ kafkaSends lib .empty cs,
      o.1.held = some ⟨none, some ⟨.plain, "blue", "blue-password"⟩⟩ ∧
      o.2.settings = ⟨none, some ⟨.plain, "red", "red-password"⟩⟩ :=
  ⟨sharedCluster, default, by decide +kernel⟩

end KubeZap
