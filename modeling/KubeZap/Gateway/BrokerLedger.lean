import KubeZap.Gateway.BrokerKinds

/-! # What a subscription is made from

For each broker: the Secrets that an Integration refers to, the settings that
`startSubscription` builds from a Trigger, an Integration and the Secrets, and the
split of these settings into those that a later call compares and those that it
does not. The two parts together determine the settings; neither alone does.
-/

namespace KubeZap.Gateway

open Foundation

def Req.Connects {R C : Type} : (q : Req R C) → q.Reply → Prop
  | .connect _, x => x = none
  | _, _ => True

def Connected {B : Broker} (sources : Sources) :
    Env (Watcher B) (@Req.Reply B.Remembered B.Config) :=
  fun w q x w' => Req.env sources w q x w' ∧ q.Connects x

structure Watcher.Same {B : Broker} (w w' : Watcher B) : Prop where
  triggers : w'.triggers = w.triggers
  index : w'.index = w.index
  subscriptions : w'.subscriptions = w.subscriptions
  live : w'.live = w.live

theorem Watcher.Same.refl {B : Broker} (w : Watcher B) : w.Same w := ⟨rfl, rfl, rfl, rfl⟩

theorem Watcher.same_discard {B : Broker} {w : Watcher B} (h : w.Coherent)
    {sub : Subscription B.Remembered B.Config} (hnone : w.subscriptions sub.key = none) :
    w.Same (((w.store sub).cancel sub).setSubscription sub.key none) where
  triggers := rfl
  index := rfl
  subscriptions := by
    rw [Watcher.subscriptions_setSubscription, Watcher.subscriptions_cancel,
      Watcher.subscriptions_store, Function.update_idem, ← hnone, Function.update_eq_self]
  live := by
    have hnew : ∀ s ∈ w.live, s ≠ sub := by
      rintro s hs rfl
      rw [h.stored s hs] at hnone
      cases hnone
    have hlive : ((w.store sub).cancel sub).live = w.live := by
      simpa [Watcher.store, Watcher.cancel] using hnew
    exact hlive

def SecretOf (refs : List NamespacedName) (q : ReadReq) : Prop := ∃ name ∈ refs, q = .getSecret name

/-- What the watcher of a broker starts, and what it remembers of it. -/
structure Ledger (B : Broker) where
  refs : String → B.Spec → List NamespacedName
  complete : B.Spec → Bool
  build : Sources → Trigger → B.Watch → B.Spec → Resolved B.Values → Except String B.Config
  remember : B.Watch → B.Spec → String → B.Remembered
  Unremembered : Type
  unremembered : B.Config → Unremembered
  asks : ∀ ns spec, (B.resolveCredentials ns spec).Asks (SecretOf (refs ns spec))
  found : ∀ s ns spec creds, ((B.resolveCredentials ns spec).replay s).2 = (creds, none) →
    creds.secretRefs = refs ns spec ∧ ∀ name ∈ refs ns spec, ∃ data, s (.getSecret name) = .ok data
  incomplete : ∀ {spec}, complete spec = false → ∀ s ns,
    ∃ creds err, ((B.resolveCredentials ns spec).replay s).2 = (creds, some err)
  builds : ∀ {s s' : Sources} {t watch spec creds},
    (∀ q, SecretOf (refs t.key.namespace_ spec) q → s' q = s q) →
    build s' t watch spec creds = build s t watch spec creds
  /-- `startSubscription` stores what it built, or leaves nothing behind. -/
  starts : ∀ {s w w' t watch spec creds x}, w.Coherent → w.subscriptions t.key = none →
    Completes (Connected s) w (B.startSubscription t watch spec creds) w' x →
    (∀ config, build s t watch spec creds = .ok config →
      w' = w.store (w.fresh t.key (remember watch spec (creds.fingerprint B.lib)) config)) ∧
    ∀ err, build s t watch spec creds = .error err → w.Same w'
  determined : ∀ {s s' t t' watch watch' spec spec' creds creds' config config'},
    t.key = t'.key → build s t watch spec creds = .ok config →
    build s' t' watch' spec' creds' = .ok config' →
    B.unchanged (remember watch spec (creds.fingerprint B.lib)) watch' (creds'.fingerprint B.lib) =
      true →
    unremembered config = unremembered config' → config = config'

/-! ## Reading a Secret -/

def secretValue (lib : WatcherLib) (s : Sources) (namespace_ : String) (ref : KeySelector) :
    Except String String :=
  ((readSecretKey lib namespace_ ref).replay s).2

section Reading

variable {lib : WatcherLib} {s : Sources} {namespace_ : String} {ref : KeySelector}

theorem readSecretKey_asks {refs : List NamespacedName} (h : ⟨namespace_, ref.name⟩ ∈ refs) :
    (readSecretKey lib namespace_ ref).Asks (SecretOf refs) := by
  unfold readSecretKey ReadReq.send
  rw [Program.request_bind]
  refine ⟨⟨_, h, rfl⟩, fun x => ?_⟩
  cases x with
  | error err => trivial
  | ok data =>
    dsimp only
    split <;> trivial

theorem secretValue_found {val : String} (h : secretValue lib s namespace_ ref = .ok val) :
    ∃ data, s (.getSecret ⟨namespace_, ref.name⟩) = .ok data := by
  cases hs : s (.getSecret ⟨namespace_, ref.name⟩) with
  | ok data => exact ⟨data, rfl⟩
  | error err =>
    unfold secretValue readSecretKey ReadReq.send at h
    rw [Program.request_bind, Program.replay_call, hs] at h
    cases h

theorem replay_readSecretKey {α : Type} (f : Except String String → ReadProgram α) :
    ((readSecretKey lib namespace_ ref >>= f).replay s).2 =
      ((f (secretValue lib s namespace_ ref)).replay s).2 := by
  rw [Program.replay_bind]
  rfl

end Reading

def secretNames (namespace_ : String) (refs : List KeySelector) : List NamespacedName :=
  refs.map fun ref => ⟨namespace_, ref.name⟩

variable {refs : List KeySelector}

theorem mem_secretNames {namespace_ : String} {ref : KeySelector}
    (h : ref ∈ refs) : (⟨namespace_, ref.name⟩ : NamespacedName) ∈ secretNames namespace_ refs :=
  List.mem_map_of_mem h

def Found (s : Sources) (namespace_ : String) (refs : List KeySelector) : Prop :=
  ∀ name ∈ secretNames namespace_ refs, ∃ data, s (.getSecret name) = .ok data

theorem Found.nil (s : Sources) (namespace_ : String) : Found s namespace_ [] := by
  intro name hname
  cases hname

theorem Found.cons {lib : WatcherLib} {s : Sources} {namespace_ : String} {ref : KeySelector}
    {val : String} (h : secretValue lib s namespace_ ref = .ok val)
    (hrefs : Found s namespace_ refs) : Found s namespace_ (ref :: refs) := by
  intro name hname
  rcases List.mem_cons.mp hname with rfl | hname
  · exact secretValue_found h
  · exact hrefs name hname

/-- The program reads the Secrets of `refs` only, and where it does not fail it has read all of
them and keeps `target`. -/
structure Resolves {V : Type} (namespace_ : String) (target : List NamespacedName)
    (refs : List KeySelector) (p : ReadProgram (Resolved V × Option String)) : Prop where
  asks : p.Asks (SecretOf (secretNames namespace_ refs))
  found : ∀ s creds, (p.replay s).2 = (creds, none) →
    creds.secretRefs = target ∧ Found s namespace_ refs

section Resolving

variable {V : Type} {namespace_ : String} {target : List NamespacedName} {creds : Resolved V}

theorem Resolves.done (h : creds.secretRefs = target) :
    Resolves namespace_ target [] (return (creds, none)) where
  asks := trivial
  found s _ heq := by
    cases heq
    exact ⟨h, .nil s namespace_⟩

theorem Resolves.failed {err : String} : Resolves namespace_ target refs (return (creds, some err)) where
  asks := trivial
  found _ _ heq := by cases heq

theorem Resolves.read {lib : WatcherLib} {ref : KeySelector}
    {f : Except String String → ReadProgram (Resolved V × Option String)}
    (herr : ∀ err, ∃ creds e, f (.error err) = return (creds, some e))
    (hok : ∀ value, Resolves namespace_ target refs (f (.ok value))) :
    Resolves namespace_ target (ref :: refs) (readSecretKey lib namespace_ ref >>= f) where
  asks := by
    refine (readSecretKey_asks (mem_secretNames List.mem_cons_self)).bind fun value => ?_
    cases value with
    | error err =>
      obtain ⟨creds, e, heq⟩ := herr err
      rw [heq]
      trivial
    | ok value =>
      refine (hok value).asks.mono ?_
      rintro _ ⟨name, hname, rfl⟩
      exact ⟨name, List.mem_cons_of_mem _ hname, rfl⟩
  found s creds h := by
    rw [replay_readSecretKey] at h
    cases hval : secretValue lib s namespace_ ref with
    | error err =>
      obtain ⟨creds, e, heq⟩ := herr err
      rw [hval, heq] at h
      cases h
    | ok value =>
      rw [hval] at h
      obtain ⟨htarget, hfound⟩ := (hok value).found s creds h
      exact ⟨htarget, .cons hval hfound⟩

end Resolving

theorem completes_read {B : Broker} {s : Sources} {w w' : Watcher B} {α : Type}
    {p : ReadProgram α} {a : α} :
    Completes (Connected (B := B) s) w (p.lift Req.read (fun _ x => x)) w' a ↔
      w' = w ∧ a = (p.replay s).2 :=
  completes_lift (f := Req.read) (s := s) (fun _ _ _ => and_iff_left trivial) (fun q => ⟨s q, rfl⟩)

theorem completes_startConnected {B : Broker} {s : Sources} {w w' : Watcher B}
    {key : NamespacedName} {remembered : B.Remembered} {built : Except String B.Config}
    {x : Except String Unit}
    (h : Completes (Connected s) w (startConnected key remembered built) w' x) :
    (∀ config, built = .ok config → w' = w.store (w.fresh key remembered config)) ∧
      ∀ err, built = .error err → w.Same w' := by
  cases built with
  | error err =>
    obtain ⟨rfl, _⟩ := completes_return.mp h
    exact ⟨nofun, fun _ _ => .refl w'⟩
  | ok config =>
    refine ⟨?_, nofun⟩
    rintro config ⟨⟩
    unfold startConnected Req.send at h
    dsimp only at h
    rw [completes_request] at h
    obtain ⟨err, w₁, ⟨hsame, hnone⟩, h⟩ := h
    have hw : w₁ = w := hsame
    have herr : err = none := hnone
    subst hw herr
    rw [completes_request] at h
    obtain ⟨sub, w₂, ⟨⟨_, hstore⟩, _⟩, h⟩ := h
    obtain ⟨rfl, _⟩ := completes_return.mp h
    exact hstore

/-! ## Kafka -/

structure KafkaUnremembered where
  bootstrapServers : List String
  tls : Option TLSConfig
  sasl : Option SASLSettings
  flowRefName : String

def KafkaConfig.unremembered (config : KafkaConfig) : KafkaUnremembered :=
  ⟨config.bootstrapServers, config.tls, config.sasl, config.handler.flowRefName⟩

def kafkaSecretRefs (spec : KafkaIntegrationSpec) : List KeySelector :=
  (KafkaIntegrationSpec.caSecretRef spec).toList ++
    match spec.sasl with
    | none => []
    | some sasl => [sasl.usernameSecretRef, sasl.passwordSecretRef]

section Kafka

variable {lib : WatcherLib} {s : Sources} {namespace_ : String} {spec : KafkaIntegrationSpec}

variable {creds : Resolved KafkaValues}

theorem resolveKafkaSASL_resolves {sasl : KafkaSASLConfig} {target : List NamespacedName}
    (htarget : creds.secretRefs ++
      secretNames namespace_ [sasl.usernameSecretRef, sasl.passwordSecretRef] = target) :
    Resolves namespace_ target [sasl.usernameSecretRef, sasl.passwordSecretRef]
      (resolveKafkaSASL lib namespace_ sasl creds) := by
  refine .read (fun err => ⟨_, _, rfl⟩) fun username => ?_
  exact .read (fun err => ⟨_, _, rfl⟩) fun password => .done htarget

theorem resolveKafkaCredentials_resolves : Resolves namespace_
    (secretNames namespace_ (kafkaSecretRefs spec)) (kafkaSecretRefs spec)
    (resolveKafkaCredentials lib namespace_ spec) := by
  unfold resolveKafkaCredentials kafkaSecretRefs
  dsimp only
  cases KafkaIntegrationSpec.caSecretRef spec with
  | none =>
    cases spec.sasl with
    | none => exact .done rfl
    | some sasl => exact resolveKafkaSASL_resolves rfl
  | some ref =>
    refine .read (fun err => ⟨_, _, rfl⟩) fun caPEM => ?_
    cases spec.sasl with
    | none => exact .done rfl
    | some sasl => exact resolveKafkaSASL_resolves rfl

theorem kafkaConfig_eq {trigger : Trigger} {watch : KafkaWatch} {values : KafkaValues}
    {config : KafkaConfig} (h : kafkaConfig lib trigger watch spec values = .ok config) :
    config.topic = watch.topic ∧ config.groupID = watch.consumerGroup ∧
      config.handler.triggerName = trigger.key.name ∧
      config.handler.triggerNamespace = trigger.key.namespace_ := by
  unfold kafkaConfig at h
  cases htls : kafkaTLS lib trigger.key.namespace_ spec values with
  | error err =>
    rw [htls] at h
    cases h
  | ok tls =>
    cases hsasl : kafkaSASL spec values with
    | error err =>
      rw [htls, hsasl] at h
      cases h
    | ok sasl =>
      rw [htls, hsasl] at h
      cases h
      exact ⟨rfl, rfl, rfl, rfl⟩

theorem kafkaConfig_determined {t t' : Trigger} {watch watch' : KafkaWatch}
    {spec' : KafkaIntegrationSpec} {values values' : KafkaValues} {config config' : KafkaConfig}
    (hkey : t.key = t'.key) (h : kafkaConfig lib t watch spec values = .ok config)
    (h' : kafkaConfig lib t' watch' spec' values' = .ok config')
    (htopic : watch.topic = watch'.topic) (hgroup : watch.consumerGroup = watch'.consumerGroup)
    (hrest : config.unremembered = config'.unremembered) : config = config' := by
  obtain ⟨h₁, h₂, h₃, h₄⟩ := kafkaConfig_eq h
  obtain ⟨h₁', h₂', h₃', h₄'⟩ := kafkaConfig_eq h'
  simp only [KafkaConfig.unremembered, KafkaUnremembered.mk.injEq] at hrest
  obtain ⟨hservers, htls, hsasl, hflow⟩ := hrest
  have hhandler : config.handler = config'.handler := by
    calc config.handler
        = ⟨t.key.name, t.key.namespace_, config.handler.flowRefName⟩ := by rw [← h₃, ← h₄]
      _ = ⟨t'.key.name, t'.key.namespace_, config'.handler.flowRefName⟩ := by rw [hkey, hflow]
      _ = config'.handler := by rw [← h₃', ← h₄']
  refine KafkaConfig.ext hservers ?_ ?_ htls hsasl hhandler
  · rw [h₂, hgroup, h₂']
  · rw [h₁, htopic, h₁']

end Kafka

def kafkaLedger (lib : WatcherLib) : Ledger (kafkaBroker lib) where
  refs namespace_ spec := secretNames namespace_ (kafkaSecretRefs spec)
  complete _ := true
  build _ trigger watch spec creds := kafkaConfig lib trigger watch spec creds.values
  remember watch _ fingerprint := kafkaRemembered watch fingerprint
  Unremembered := KafkaUnremembered
  unremembered := KafkaConfig.unremembered
  asks _ _ := resolveKafkaCredentials_resolves.asks
  found s _ _ creds h := resolveKafkaCredentials_resolves.found s creds h
  incomplete := nofun
  builds _ := rfl
  starts _ _ h := completes_startConnected h
  determined hkey h h' hsame hrest := by
    simp only [kafkaBroker, kafkaRemembered, Bool.and_eq_true, beq_iff_eq] at hsame
    exact kafkaConfig_determined hkey h h' hsame.1.1.1 hsame.1.1.2 hrest

/-! ## AMQP -/

structure AmqpUnremembered where
  version : AmqpVersion
  connection : Except String AmqpConnection
  exchange : Option AmqpExchangeSpec
  flowRefName : String

def AmqpConfig.unremembered (config : AmqpConfig) : AmqpUnremembered :=
  ⟨config.version, config.connection, config.exchange, config.handler.flowRefName⟩

def amqpSecretRefs (spec : AmqpIntegrationSpec) : List KeySelector :=
  spec.usernameSecretRef.toList ++ spec.passwordSecretRef.toList ++
    (AmqpIntegrationSpec.caSecretRef spec).toList

/-- What `startSubscription` leaves running, or why it refuses. -/
def builtAmqp (lib : WatcherLib) (s : Sources) (trigger : Trigger) (watch : AmqpWatch)
    (spec : AmqpIntegrationSpec) : Except String AmqpConfig :=
  match amqpRefusal lib trigger watch (AmqpIntegrationSpec.wireVersion spec) with
  | some err => .error err
  | none => .ok ((amqpConfig lib trigger watch spec).replay s).2

section Amqp

variable {lib : WatcherLib} {s : Sources} {namespace_ : String} {spec : AmqpIntegrationSpec}

theorem mem_amqpSecretRefs {ref : KeySelector} :
    ref ∈ amqpSecretRefs spec ↔
      spec.usernameSecretRef = some ref ∨ spec.passwordSecretRef = some ref ∨
        AmqpIntegrationSpec.caSecretRef spec = some ref := by
  simp [amqpSecretRefs]

variable {next : Resolved Unit → ReadProgram (Resolved Unit × Option String)}

theorem resolveAmqpSecret_resolves {what : String} {ref : Option KeySelector}
    {creds : Resolved Unit} {target : List NamespacedName} {refs : List KeySelector}
    (hnext : ∀ read : Resolved Unit,
      read.secretRefs = creds.secretRefs ++ secretNames namespace_ ref.toList →
      Resolves namespace_ target refs (next read)) :
    Resolves namespace_ target (ref.toList ++ refs)
      (resolveAmqpSecret lib namespace_ what ref creds next) := by
  cases ref with
  | none => exact hnext creds (List.append_nil _).symm
  | some ref => exact .read (fun err => ⟨_, _, rfl⟩) fun value => hnext _ rfl

theorem resolveAmqpCredentials_resolves : Resolves namespace_
    (secretNames namespace_ (amqpSecretRefs spec)) (amqpSecretRefs spec)
    (resolveAmqpCredentials lib namespace_ spec) := by
  have hrefs : amqpSecretRefs spec = spec.usernameSecretRef.toList ++
      (spec.passwordSecretRef.toList ++ ((AmqpIntegrationSpec.caSecretRef spec).toList ++ [])) := by
    simp [amqpSecretRefs]
  rw [hrefs]
  refine resolveAmqpSecret_resolves fun user huser => ?_
  refine resolveAmqpSecret_resolves fun pass hpass => ?_
  refine resolveAmqpSecret_resolves fun ca hca => .done ?_
  rw [hca, hpass, huser]
  simp [secretNames]

theorem amqpTLS_asks {url : String} :
    (amqpTLS lib namespace_ spec url).Asks
      (SecretOf (secretNames namespace_ (amqpSecretRefs spec))) := by
  unfold amqpTLS
  split
  · cases hca : AmqpIntegrationSpec.caSecretRef spec with
    | none => trivial
    | some ref =>
      refine (readSecretKey_asks (mem_secretNames (mem_amqpSecretRefs.mpr (.inr (.inr hca))))).bind
        fun caPEM => ?_
      cases caPEM with
      | error err => trivial
      | ok caPEM =>
        dsimp only
        split <;> trivial
  · trivial

theorem amqpLogin_asks :
    (amqpLogin lib namespace_ spec).Asks
      (SecretOf (secretNames namespace_ (amqpSecretRefs spec))) := by
  unfold amqpLogin
  cases huser : spec.usernameSecretRef with
  | none => trivial
  | some userRef =>
    refine (readSecretKey_asks
      (mem_secretNames (mem_amqpSecretRefs.mpr (.inl huser)))).bind fun username => ?_
    cases username with
    | error err => trivial
    | ok username =>
      dsimp only
      cases hpass : spec.passwordSecretRef with
      | none => trivial
      | some passRef =>
        refine (readSecretKey_asks
          (mem_secretNames (mem_amqpSecretRefs.mpr (.inr (.inl hpass))))).bind
            fun password => ?_
        cases password <;> trivial

variable {trigger : Trigger} {watch : AmqpWatch}

theorem amqpConfig_asks :
    (amqpConfig lib trigger watch spec).Asks
      (SecretOf (secretNames trigger.key.namespace_ (amqpSecretRefs spec))) := by
  have h091 : (connection091 lib trigger.key.namespace_ spec).Asks
      (SecretOf (secretNames trigger.key.namespace_ (amqpSecretRefs spec))) :=
    amqpLogin_asks.tryThen fun login => amqpTLS_asks.tryThen fun tls => trivial
  have h10 : (connection10 lib trigger.key.namespace_ spec).Asks
      (SecretOf (secretNames trigger.key.namespace_ (amqpSecretRefs spec))) :=
    amqpTLS_asks.tryThen fun tls => amqpLogin_asks.tryThen fun login => trivial
  unfold amqpConfig
  split
  · exact h10.bind fun connection => trivial
  · exact h091.bind fun connection => trivial
  · exact h091.bind fun connection => trivial

theorem builtAmqp_congr {s' : Sources}
    (h : ∀ q, SecretOf (secretNames trigger.key.namespace_ (amqpSecretRefs spec)) q → s' q = s q) :
    builtAmqp lib s' trigger watch spec = builtAmqp lib s trigger watch spec := by
  unfold builtAmqp
  rw [amqpConfig_asks.replay_congr h]

theorem completes_startAmqp {w w' : Watcher (amqpBroker lib)} {fingerprint : String}
    {x : Except String Unit} (hw : w.Coherent) (hnone : w.subscriptions trigger.key = none)
    (hrun : Completes (Connected s) w (startAmqp lib trigger watch spec fingerprint) w' x) :
    (∀ config, builtAmqp lib s trigger watch spec = .ok config →
      w' = w.store (w.fresh trigger.key (amqpRemembered watch fingerprint) config)) ∧
    ∀ err, builtAmqp lib s trigger watch spec = .error err → w.Same w' := by
  obtain ⟨config, w₁, hread, h⟩ := completes_bind.mp hrun
  obtain ⟨hw₁, hconfig⟩ := completes_read.mp hread
  obtain ⟨sub, w₂, ⟨⟨hsub, hstore⟩, _⟩, h⟩ := completes_call.mp h
  rw [hw₁] at hsub hstore
  unfold builtAmqp
  cases hrefused : amqpRefusal lib trigger watch (AmqpIntegrationSpec.wireVersion spec) with
  | none =>
    rw [hrefused] at h
    obtain ⟨rfl, _⟩ := completes_return.mp h
    refine ⟨?_, nofun⟩
    rintro _ ⟨⟩
    rw [← hconfig]
    exact hstore
  | some err =>
    rw [hrefused] at h
    obtain ⟨_, w₃, ⟨hdiscard, _⟩, h⟩ := completes_call.mp h
    obtain ⟨rfl, _⟩ := completes_return.mp h
    refine ⟨nofun, fun _ _ => ?_⟩
    have hw' : w' = (w₂.cancel sub).setSubscription sub.key none := hdiscard
    rw [hw', hstore, hsub]
    exact Watcher.same_discard hw hnone

theorem builtAmqp_eq {config : AmqpConfig} (h : builtAmqp lib s trigger watch spec = .ok config) :
    config.topic = watch.topic ∧ config.routingKey = watch.routingKey ∧
      config.consumerTag = "kubezap-" ++ trigger.key.name ∧
      config.handler.triggerName = trigger.key.name ∧
      config.handler.triggerNamespace = trigger.key.namespace_ := by
  unfold builtAmqp at h
  cases hrefused : amqpRefusal lib trigger watch (AmqpIntegrationSpec.wireVersion spec) with
  | some err =>
    rw [hrefused] at h
    cases h
  | none =>
    rw [hrefused] at h
    have hconfig : ((amqpConfig lib trigger watch spec).replay s).2 = config :=
      Except.ok.inj h
    rw [← hconfig]
    unfold amqpConfig
    split <;> rw [Program.replay_bind] <;> exact ⟨rfl, rfl, rfl, rfl, rfl⟩

theorem builtAmqp_determined {s' : Sources} {t t' : Trigger} {watch' : AmqpWatch}
    {spec' : AmqpIntegrationSpec} {config config' : AmqpConfig} (hkey : t.key = t'.key)
    (h : builtAmqp lib s t watch spec = .ok config)
    (h' : builtAmqp lib s' t' watch' spec' = .ok config') (htopic : watch.topic = watch'.topic)
    (hrouting : watch.routingKey = watch'.routingKey)
    (hrest : config.unremembered = config'.unremembered) : config = config' := by
  obtain ⟨h₁, h₂, h₃, h₄, h₅⟩ := builtAmqp_eq h
  obtain ⟨h₁', h₂', h₃', h₄', h₅'⟩ := builtAmqp_eq h'
  simp only [AmqpConfig.unremembered, AmqpUnremembered.mk.injEq] at hrest
  obtain ⟨hversion, hconnection, hexchange, hflow⟩ := hrest
  have hhandler : config.handler = config'.handler := by
    calc config.handler
        = ⟨t.key.name, t.key.namespace_, config.handler.flowRefName⟩ := by rw [← h₄, ← h₅]
      _ = ⟨t'.key.name, t'.key.namespace_, config'.handler.flowRefName⟩ := by rw [hkey, hflow]
      _ = config'.handler := by rw [← h₄', ← h₅']
  refine AmqpConfig.ext hversion hconnection ?_ ?_ hexchange ?_ hhandler
  · rw [h₁, htopic, h₁']
  · rw [h₂, hrouting, h₂']
  · rw [h₃, hkey, h₃']

end Amqp

def amqpLedger (lib : WatcherLib) : Ledger (amqpBroker lib) where
  refs namespace_ spec := secretNames namespace_ (amqpSecretRefs spec)
  complete _ := true
  build s trigger watch spec _ := builtAmqp lib s trigger watch spec
  remember watch _ fingerprint := amqpRemembered watch fingerprint
  Unremembered := AmqpUnremembered
  unremembered := AmqpConfig.unremembered
  asks _ _ := resolveAmqpCredentials_resolves.asks
  found s _ _ creds h := resolveAmqpCredentials_resolves.found s creds h
  incomplete := nofun
  builds h := builtAmqp_congr h
  starts hw hnone h := completes_startAmqp hw hnone h
  determined hkey h h' hsame hrest := by
    simp only [amqpBroker, amqpRemembered, Bool.and_eq_true, beq_iff_eq] at hsame
    exact builtAmqp_determined hkey h h' hsame.1.1.1 hsame.1.1.2 hrest

/-! ## NATS -/

structure NatsUnremembered where
  servers : String
  tls : Option TLSConfig
  login : NatsLogin
  isJetStream : Bool
  flowRefName : String

def NatsConfig.unremembered (config : NatsConfig) : NatsUnremembered :=
  ⟨config.servers, config.tls, config.login, config.handler.isJetStream, config.handler.flowRefName⟩

def natsLoginRefs (spec : NatsIntegrationSpec) : List KeySelector :=
  match spec.credentialsSecretRef, spec.usernameSecretRef with
  | some name, _ => [⟨name, "nats.creds"⟩]
  | none, some userRef => userRef :: spec.passwordSecretRef.toList
  | none, none => []

def natsSecretRefs (spec : NatsIntegrationSpec) : List KeySelector :=
  (NatsIntegrationSpec.caSecretRef spec).toList ++ natsLoginRefs spec

def natsComplete (spec : NatsIntegrationSpec) : Bool :=
  spec.credentialsSecretRef.isSome || spec.usernameSecretRef.isNone || spec.passwordSecretRef.isSome

section Nats

variable {lib : WatcherLib} {s : Sources} {namespace_ : String} {spec : NatsIntegrationSpec}

variable {creds : Resolved NatsValues}

theorem resolveNatsLogin_resolves {target : List NamespacedName}
    (htarget : creds.secretRefs ++ secretNames namespace_ (natsLoginRefs spec) = target) :
    Resolves namespace_ target (natsLoginRefs spec) (resolveNatsLogin lib namespace_ spec creds) := by
  subst htarget
  unfold resolveNatsLogin natsLoginRefs
  cases spec.credentialsSecretRef with
  | some name => exact .read (fun err => ⟨_, _, rfl⟩) fun content => .done rfl
  | none =>
    cases spec.usernameSecretRef with
    | none => exact .done (List.append_nil _).symm
    | some userRef =>
      refine .read (fun err => ⟨_, _, rfl⟩) fun username => ?_
      cases spec.passwordSecretRef with
      | none => exact .failed
      | some passRef => exact .read (fun err => ⟨_, _, rfl⟩) fun password => .done rfl

theorem resolveNatsCredentials_resolves : Resolves namespace_
    (secretNames namespace_ (natsSecretRefs spec)) (natsSecretRefs spec)
    (resolveNatsCredentials lib namespace_ spec) := by
  unfold resolveNatsCredentials natsSecretRefs
  cases NatsIntegrationSpec.caSecretRef spec with
  | none => exact resolveNatsLogin_resolves rfl
  | some ref => exact .read (fun err => ⟨_, _, rfl⟩) fun caPEM => resolveNatsLogin_resolves rfl

theorem resolveNatsLogin_incomplete (h : natsComplete spec = false) (creds : Resolved NatsValues) :
    ∃ creds' err, ((resolveNatsLogin lib namespace_ spec creds).replay s).2 = (creds', some err) := by
  simp only [natsComplete, Bool.or_eq_false_iff, Option.isSome_eq_false_iff,
    Option.isNone_eq_false_iff, Option.isNone_iff_eq_none, Option.isSome_iff_exists] at h
  obtain ⟨⟨hcreds, userRef, huser⟩, hpass⟩ := h
  unfold resolveNatsLogin
  rw [hcreds, huser, hpass]
  dsimp only
  unfold resolveNatsUser
  rw [replay_readSecretKey]
  cases secretValue lib s namespace_ userRef with
  | error | ok => exact ⟨_, _, rfl⟩

theorem resolveNatsCredentials_incomplete (h : natsComplete spec = false) :
    ∃ creds err, ((resolveNatsCredentials lib namespace_ spec).replay s).2 = (creds, some err) := by
  unfold resolveNatsCredentials
  cases NatsIntegrationSpec.caSecretRef spec with
  | none => exact resolveNatsLogin_incomplete h _
  | some ref =>
    dsimp only
    rw [replay_readSecretKey]
    cases secretValue lib s namespace_ ref with
    | error err => exact ⟨_, _, rfl⟩
    | ok caPEM => exact resolveNatsLogin_incomplete h _

theorem natsConfig_eq {trigger : Trigger} {watch : NatsWatch} {values : NatsValues}
    {config : NatsConfig} (h : natsConfig lib trigger watch spec values = .ok config) :
    config.subject = watch.subject ∧
      config.durable =
        (if config.handler.isJetStream then some (Nats.durableName trigger.key.name) else none) ∧
      config.handler.triggerName = trigger.key.name ∧
      config.handler.triggerNamespace = trigger.key.namespace_ := by
  unfold natsConfig at h
  cases htls : natsTLS lib trigger.key.namespace_ spec values with
  | error err =>
    rw [htls] at h
    cases h
  | ok tls =>
    rw [htls] at h
    cases h
    exact ⟨rfl, rfl, rfl, rfl⟩

theorem natsConfig_determined {t t' : Trigger} {watch watch' : NatsWatch}
    {spec' : NatsIntegrationSpec} {values values' : NatsValues} {config config' : NatsConfig}
    (hkey : t.key = t'.key) (h : natsConfig lib t watch spec values = .ok config)
    (h' : natsConfig lib t' watch' spec' values' = .ok config')
    (hsubject : watch.subject = watch'.subject)
    (hrest : config.unremembered = config'.unremembered) : config = config' := by
  obtain ⟨h₁, h₂, h₃, h₄⟩ := natsConfig_eq h
  obtain ⟨h₁', h₂', h₃', h₄'⟩ := natsConfig_eq h'
  simp only [NatsConfig.unremembered, NatsUnremembered.mk.injEq] at hrest
  obtain ⟨hservers, htls, hlogin, hmode, hflow⟩ := hrest
  have hhandler : config.handler = config'.handler := by
    calc config.handler
        = ⟨t.key.name, t.key.namespace_, config.handler.flowRefName, config.handler.isJetStream⟩ := by
          rw [← h₃, ← h₄]
      _ = ⟨t'.key.name, t'.key.namespace_, config'.handler.flowRefName,
            config'.handler.isJetStream⟩ := by rw [hkey, hflow, hmode]
      _ = config'.handler := by rw [← h₃', ← h₄']
  refine NatsConfig.ext hservers htls hlogin ?_ ?_ hhandler
  · rw [h₁, hsubject, h₁']
  · rw [h₂, h₂', hmode, hkey]

end Nats

def natsLedger (lib : WatcherLib) : Ledger (natsBroker lib) where
  refs namespace_ spec := secretNames namespace_ (natsSecretRefs spec)
  complete := natsComplete
  build _ trigger watch spec creds := natsConfig lib trigger watch spec creds.values
  remember watch spec fingerprint := natsRemembered watch spec fingerprint
  Unremembered := NatsUnremembered
  unremembered := NatsConfig.unremembered
  asks _ _ := resolveNatsCredentials_resolves.asks
  found s _ _ creds h := resolveNatsCredentials_resolves.found s creds h
  incomplete h _ _ := resolveNatsCredentials_incomplete h
  builds _ := rfl
  starts _ _ h := completes_startConnected h
  determined hkey h h' hsame hrest := by
    simp only [natsBroker, natsRemembered, Bool.and_eq_true, beq_iff_eq] at hsame
    exact natsConfig_determined hkey h h' hsame.1.1 hrest

def BrokerType.ledger (lib : WatcherLib) : (type : BrokerType) → Ledger (type.broker lib)
  | .kafka => kafkaLedger lib
  | .amqp => amqpLedger lib
  | .nats => natsLedger lib

end KubeZap.Gateway
