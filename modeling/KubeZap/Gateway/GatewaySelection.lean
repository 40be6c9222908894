import KubeZap.Controller.IntegrationGateways
import KubeZap.Gateway.SubscriptionConfig

/-! # Which gateway subscribes to a Trigger

Every Integration of a broker has a gateway of its own, and every gateway watches all
Triggers of its namespace. The watcher takes the Integration of a Trigger from the
Trigger and never compares it with the one that its gateway was deployed for, although
the Deployment names it in the environment. Here are the pods of all gateways over one
set of objects, each with a watcher that has seen them, and what becomes of a message.
-/

namespace KubeZap.Gateway

open Foundation Function

/-! ## The process of a gateway -/

/-- The `--namespace` flag; a later one replaces an earlier one. -/
def namespaceFlag (args : List String) : String :=
  args.foldl (fun namespace_ arg =>
    if startsWith arg "--namespace=" then trimStart arg "--namespace=" else namespace_) ""

/-- `main` of the three gateways: the namespace of the watcher, unless the process exits. -/
def gatewayMain (environ : Environ) (args : List String) : Option String :=
  if environ envVarWatchNamespaces = "*" then none else some (namespaceFlag args)

theorem namespaceFlag_singleton (namespace_ : String) :
    namespaceFlag ["--namespace=" ++ namespace_] = namespace_ := by
  simp [namespaceFlag, startsWith, trimStart, String.toList_append]

theorem gatewayMain_reconciled {quote : String → String} {environ : Environ}
    {integration : Integration} {gateway : GatewayDeployment}
    (h : reconciledGateway quote environ integration = some gateway) :
    gatewayMain gateway.environ gateway.args =
      if environ envVarWatchNamespaces = "*" then none else some integration.name.namespace_ := by
  obtain ⟨_, hargs, henv⟩ := reconciledGateway_eq h
  rw [gatewayMain, hargs, henv, namespaceFlag_singleton]

/-- The informers deliver the objects of the namespace; without one, of all namespaces. -/
def InScope (namespace_ : String) (name : NamespacedName) : Prop :=
  namespace_ = "" ∨ name.namespace_ = namespace_

def Cluster.Delivers (c : Cluster) (namespace_ : String) : Change → Prop
  | .setTrigger trigger =>
    c.triggers trigger.key = some trigger ∧ InScope namespace_ trigger.key
  | .setIntegration integration =>
    c.integrations integration.name = some integration ∧ InScope namespace_ integration.name
  | .setSecret name data => c.secrets name = some data ∧ InScope namespace_ name
  | .deleteTrigger _ | .deleteIntegration _ | .deleteSecret _ => False

/-- The watcher has handled events for the objects as they are, one after the other with
all connections succeeding, and the event of every Trigger in its scope among them. -/
def Cluster.Watched {B : Broker} (c : Cluster) (namespace_ : String) (w : Watcher B) : Prop :=
  ∃ events, Run (fun w change w' => c.Delivers namespace_ change ∧
      Completes (Connected c.sources) w (change.handle B) w' ()) (.start B) events w ∧
    ∀ key trigger, c.triggers key = some trigger → InScope namespace_ key →
      .setTrigger trigger ∈ events

/-! ## A watcher over objects that stay as they are -/

section Still

variable {B : Broker} {L : Ledger B} {c : Cluster} {s : Sources} {w w' : Watcher B}
  {trigger : Trigger} {watch : B.Watch}

def Ledger.wanted (L : Ledger B) (s : Sources) (trigger : Trigger) : Option B.Config :=
  (B.watch trigger).bind (L.expected s trigger)

def Ledger.Fresh (L : Ledger B) (s : Sources) (trigger : Trigger)
    (running : Option (Subscription B.Remembered B.Config)) : Prop :=
  ∀ sub, running = some sub → L.Made trigger.key sub ∧ L.wanted s trigger = some sub.config

structure Ledger.Served (L : Ledger B) (s : Sources) (w : Watcher B) (trigger : Trigger)
    (w' : Watcher B) : Prop where
  coherent : w'.Coherent
  others : ∀ key, key ≠ trigger.key → w'.entry key = w.entry key
  known : w'.triggers trigger.key = some trigger
  made : ∀ sub, w'.subscriptions trigger.key = some sub → L.Made trigger.key sub
  wanted : (w'.subscriptions trigger.key).map (·.config) = L.wanted s trigger

theorem Ledger.Turn.served {e e' : Entry B} (h : L.Turn s trigger watch e e')
    (hwatch : B.watch trigger = some watch) (hfresh : L.Fresh s trigger e.subscription) :
    e'.trigger = some trigger ∧ (∀ sub, e'.subscription = some sub → L.Made trigger.key sub) ∧
      e'.subscription.map (·.config) = L.wanted s trigger := by
  have hwanted : L.wanted s trigger = L.expected s trigger watch := by rw [Ledger.wanted, hwatch]; rfl
  -- a call that ends before it comes to the subscription
  have hkept (hnone : L.expected s trigger watch = none) :
      (∀ sub, e.subscription = some sub → L.Made trigger.key sub) ∧
        e.subscription.map (·.config) = L.wanted s trigger := by
    have hidle : e.subscription = none := Option.eq_none_iff_forall_ne_some.mpr fun sub hsub => by
      cases (hwanted.trans hnone).symm.trans (hfresh sub hsub).2
    rw [hidle, hwanted, hnone]
    exact ⟨nofun, rfl⟩
  cases h with
  | unread hread => exact ⟨rfl, hkept (by rw [Ledger.expected, hread])⟩
  | missing hread hspec => exact ⟨rfl, hkept (by simp only [Ledger.expected, hread, hspec])⟩
  | resolved hread hspec hcreds hnew =>
    cases hnew with
    | unresolved => exact ⟨rfl, hkept (by simp only [Ledger.expected, hread, hspec, hcreds])⟩
    | kept hold _ =>
      refine ⟨rfl, fun sub hsub => (hfresh sub hsub).1, ?_⟩
      rw [(hfresh _ hold).2]
      exact congrArg _ hold
    | started hconfig hmade =>
      refine ⟨rfl, hmade, hconfig.trans ?_⟩
      simp only [hwanted, Ledger.expected, hread, hspec, hcreds]

theorem Ledger.served (hw : w.Coherent) (hfresh : L.Fresh s trigger (w.subscriptions trigger.key))
    (hrun : Completes (Connected s) w (reconcileTrigger B trigger) w' ()) :
    L.Served s w trigger w' := by
  obtain ⟨e, htouches, hknown, hmade, hwanted⟩ : ∃ e, w.Touches trigger.key e w' ∧
      e.trigger = some trigger ∧ (∀ sub, e.subscription = some sub → L.Made trigger.key sub) ∧
      e.subscription.map (·.config) = L.wanted s trigger := by
    cases hwatch : B.watch trigger with
    | none =>
      refine ⟨_, touches_unwatched hw hwatch hrun, rfl, nofun, ?_⟩
      rw [Ledger.wanted, hwatch]
      rfl
    | some watch =>
      obtain ⟨e, htouches, hturn⟩ := L.turned hw hwatch hrun
      exact ⟨e, htouches, hturn.served hwatch hfresh⟩
  rw [← htouches.self] at hknown hmade hwanted
  exact ⟨htouches.coherent, htouches.others, hknown, hmade, hwanted⟩

/-- The watcher knows some of the Triggers of its scope, and for these runs what should. -/
structure Ledger.Serves (L : Ledger B) (c : Cluster) (namespace_ : String) (w : Watcher B) :
    Prop where
  coherent : w.Coherent
  unknown : ∀ key, w.triggers key = none → w.subscriptions key = none
  known : ∀ key trigger, w.triggers key = some trigger →
    c.triggers key = some trigger ∧ InScope namespace_ key
  made : ∀ key sub, w.subscriptions key = some sub → L.Made key sub
  wanted : ∀ key trigger, w.triggers key = some trigger →
    (w.subscriptions key).map (·.config) = L.wanted c.sources trigger

theorem Ledger.serves_start (L : Ledger B) (c : Cluster) (namespace_ : String) :
    L.Serves c namespace_ (.start B) where
  coherent := Watcher.coherent_start B
  unknown _ _ := rfl
  known _ _ h := by cases h
  made _ _ h := by cases h
  wanted _ _ h := by cases h

variable {namespace_ : String}

theorem Ledger.Serves.reconcile (h : L.Serves c namespace_ w)
    (htrigger : c.triggers trigger.key = some trigger) (hscope : InScope namespace_ trigger.key)
    (hrun : Completes (Connected c.sources) w (reconcileTrigger B trigger) w' ()) :
    L.Serves c namespace_ w' ∧ (∀ key t, w.triggers key = some t → w'.triggers key = some t) ∧
      w'.triggers trigger.key = some trigger := by
  have hfresh : L.Fresh c.sources trigger (w.subscriptions trigger.key) := by
    intro sub hsub
    refine ⟨h.made trigger.key sub hsub, ?_⟩
    cases hknown : w.triggers trigger.key with
    | none =>
      rw [h.unknown trigger.key hknown] at hsub
      cases hsub
    | some t =>
      have ht := (h.known trigger.key t hknown).1
      rw [htrigger] at ht
      cases ht
      rw [← h.wanted trigger.key trigger hknown, hsub]
      rfl
  obtain ⟨hcoherent, hothers, hknown, hmade, hwanted⟩ := L.served h.coherent hfresh hrun
  have htriggers : ∀ key, key ≠ trigger.key → w'.triggers key = w.triggers key :=
    fun key hkey => congrArg Entry.trigger (hothers key hkey)
  have hsubs : ∀ key, key ≠ trigger.key → w'.subscriptions key = w.subscriptions key :=
    fun key hkey => congrArg Entry.subscription (hothers key hkey)
  refine ⟨⟨hcoherent, ?_, ?_, ?_, ?_⟩, ?_, hknown⟩
  · intro key hnone
    by_cases hkey : key = trigger.key
    · rw [hkey, hknown] at hnone
      cases hnone
    · rw [htriggers key hkey] at hnone
      rw [hsubs key hkey, h.unknown key hnone]
  · intro key t ht
    by_cases hkey : key = trigger.key
    · subst hkey
      rw [hknown] at ht
      cases ht
      exact ⟨htrigger, hscope⟩
    · rw [htriggers key hkey] at ht
      exact h.known key t ht
  · intro key sub hsub
    by_cases hkey : key = trigger.key
    · subst hkey
      exact hmade sub hsub
    · rw [hsubs key hkey] at hsub
      exact h.made key sub hsub
  · intro key t ht
    by_cases hkey : key = trigger.key
    · subst hkey
      rw [hknown] at ht
      cases ht
      exact hwanted
    · rw [htriggers key hkey] at ht
      rw [hsubs key hkey, h.wanted key t ht]
  · intro key t ht
    by_cases hkey : key = trigger.key
    · subst hkey
      have ht' := (h.known _ t ht).1
      rw [htrigger] at ht'
      cases ht'
      exact hknown
    · rw [htriggers key hkey, ht]

theorem Ledger.Serves.reprocess (h : L.Serves c namespace_ w) {affected : List NamespacedName}
    (hrun : Completes (Connected c.sources) w (reprocess B affected) w' ()) :
    L.Serves c namespace_ w' ∧ ∀ key t, w.triggers key = some t → w'.triggers key = some t := by
  induction affected generalizing w with
  | nil =>
    obtain ⟨rfl, _⟩ := completes_return.mp hrun
    exact ⟨h, fun _ _ ht => ht⟩
  | cons first rest ih =>
    obtain ⟨found, w₁, ⟨⟨hfound, hw₁⟩, _⟩, hcall⟩ := completes_request.mp hrun
    rw [hw₁] at hcall
    cases ht : w.triggers first with
    | none =>
      rw [hfound, ht] at hcall
      exact ih h hcall
    | some t =>
      rw [hfound, ht] at hcall
      obtain ⟨_, w₂, hone, hrest⟩ := completes_bind.mp hcall
      obtain ⟨htrigger, hscope⟩ := h.known first t ht
      have hkey := c.keyed first t htrigger
      subst hkey
      obtain ⟨hserves, hkept, _⟩ := h.reconcile htrigger hscope hone
      obtain ⟨hlast, hkept'⟩ := ih hserves hrest
      exact ⟨hlast, fun key t' ht' => hkept' key t' (hkept key t' ht')⟩

theorem Ledger.Serves.event (h : L.Serves c namespace_ w) {change : Change}
    (hdelivers : c.Delivers namespace_ change)
    (hrun : Completes (Connected c.sources) w (change.handle B) w' ()) :
    L.Serves c namespace_ w' ∧ (∀ key t, w.triggers key = some t → w'.triggers key = some t) ∧
      ∀ trigger, change = .setTrigger trigger → w'.triggers trigger.key = some trigger := by
  cases change with
  | setTrigger trigger =>
    obtain ⟨hserves, hkept, hknown⟩ := h.reconcile hdelivers.1 hdelivers.2 hrun
    refine ⟨hserves, hkept, ?_⟩
    rintro _ ⟨⟩
    exact hknown
  | setIntegration | setSecret =>
    obtain ⟨affected, w₁, ⟨⟨_, hw₁⟩, _⟩, hloop⟩ := completes_request.mp hrun
    rw [hw₁] at hloop
    obtain ⟨hserves, hkept⟩ := h.reprocess hloop
    exact ⟨hserves, hkept, fun _ hne => by cases hne⟩
  | deleteTrigger | deleteIntegration | deleteSecret => cases hdelivers

theorem Cluster.Watched.serves (h : c.Watched namespace_ w) :
    L.Serves c namespace_ w ∧ ∀ key trigger, c.triggers key = some trigger →
      InScope namespace_ key → w.triggers key = some trigger := by
  obtain ⟨events, hrun, hall⟩ := h
  have hguard : Guarded (fun _ _ => True) events := fun _ _ _ => trivial
  have hinv := hrun.invariant hguard (fun events w => L.Serves c namespace_ w ∧
    ∀ trigger, .setTrigger trigger ∈ events → w.triggers trigger.key = some trigger)
    ⟨L.serves_start c namespace_, fun _ hmem => by cases hmem⟩ (by
      rintro before w change w' ⟨hserves, hseen⟩ _ ⟨hdelivers, hstep⟩
      obtain ⟨hserves', hkept, hnew⟩ := hserves.event hdelivers hstep
      refine ⟨hserves', fun trigger hmem => ?_⟩
      rcases List.mem_append.mp hmem with hmem | hmem
      · exact hkept _ _ (hseen trigger hmem)
      · exact hnew trigger (List.mem_singleton.mp hmem).symm)
  refine ⟨hinv.1, fun key trigger htrigger hscope => ?_⟩
  have hkey := c.keyed key trigger htrigger
  subst hkey
  exact hinv.2 trigger (hall _ trigger htrigger hscope)

end Still

/-! ## The pods of all gateways -/

structure Pod (B : Broker) where
  integration : Integration
  watcher : Watcher B

def BrokerType.integrationType : BrokerType → IntegrationType
  | .kafka => .kafka
  | .amqp => .amqp
  | .nats => .nats

section Fleet

variable {B : Broker}

/-- Every pod was started from the Deployment of an Integration of the type, and its watcher
has seen the objects of the namespace it was started with. -/
structure Deployed (quote : String → String) (environ : Environ) (type : IntegrationType)
    (c : Cluster) (pods : List (Pod B)) : Prop where
  own : ∀ pod ∈ pods, c.integrations pod.integration.name = some pod.integration ∧
    pod.integration.type = type ∧ pod.integration.name.namespace_ ≠ ""
  started : ∀ pod ∈ pods, ∃ gateway namespace_,
    reconciledGateway quote environ pod.integration = some gateway ∧
    gatewayMain gateway.environ gateway.args = some namespace_ ∧
    c.Watched namespace_ pod.watcher

/-- Every Integration of the type that has a Deployment has its replicas. -/
def Replicated (quote : String → String) (environ : Environ) (type : IntegrationType)
    (c : Cluster) (pods : List (Pod B)) : Prop :=
  ∀ name integration gateway, c.integrations name = some integration → integration.type = type →
    reconciledGateway quote environ integration = some gateway →
    pods.countP (·.integration = integration) = gateway.replicas

/-- The Trigger is enabled and of the broker, and a subscription of it can be started. -/
def Ledger.Subscribable (L : Ledger B) (c : Cluster) (key : NamespacedName) (trigger : Trigger)
    (watch : B.Watch) (config : B.Config) : Prop :=
  c.triggers key = some trigger ∧ B.watch trigger = some watch ∧
    L.expected c.sources trigger watch = some config

/-- The pods that subscribe to a Trigger are those of the Integration it references. -/
def Ledger.SubscribedByOwn (L : Ledger B) (c : Cluster) (pods : List (Pod B)) : Prop :=
  ∀ key trigger watch config, L.Subscribable c key trigger watch config → ∀ pod ∈ pods,
    (∃ config, pod.watcher.Runs key config) ↔
      pod.integration.name = B.integrationKey trigger watch

/-- In the namespace of a Trigger there is no gateway but that of the Integration it
references. -/
def Ledger.OwnGateways (L : Ledger B) (c : Cluster) (pods : List (Pod B)) : Prop :=
  ∀ key trigger watch config, L.Subscribable c key trigger watch config → ∀ pod ∈ pods,
    pod.integration.name.namespace_ = key.namespace_ →
    pod.integration.name = B.integrationKey trigger watch

variable {L : Ledger B} {quote : String → String} {environ : Environ} {type : IntegrationType}
  {c : Cluster} {pods : List (Pod B)}

theorem Deployed.serves (h : Deployed quote environ type c pods) {pod : Pod B} (hpod : pod ∈ pods) :
    L.Serves c pod.integration.name.namespace_ pod.watcher ∧
      ∀ key trigger, c.triggers key = some trigger →
        key.namespace_ = pod.integration.name.namespace_ →
        pod.watcher.triggers key = some trigger := by
  obtain ⟨gateway, namespace_, hgateway, hmain, hwatched⟩ := h.started pod hpod
  have hnamespace : namespace_ = pod.integration.name.namespace_ := by
    rw [gatewayMain_reconciled hgateway] at hmain
    split at hmain
    · cases hmain
    · exact (Option.some.inj hmain).symm
  rw [hnamespace] at hwatched
  obtain ⟨hserves, hseen⟩ := hwatched.serves (L := L)
  exact ⟨hserves, fun key trigger htrigger hscope => hseen key trigger htrigger (.inr hscope)⟩

theorem Deployed.runs_iff (h : Deployed quote environ type c pods) {pod : Pod B} (hpod : pod ∈ pods)
    {key : NamespacedName} {trigger : Trigger} {watch : B.Watch} {config config' : B.Config}
    (hsub : L.Subscribable c key trigger watch config) :
    pod.watcher.Runs key config' ↔
      pod.integration.name.namespace_ = key.namespace_ ∧ config' = config := by
  obtain ⟨hserves, hseen⟩ := h.serves (L := L) hpod
  obtain ⟨htrigger, hwatch, hexpected⟩ := hsub
  rw [hserves.coherent.runs_iff]
  by_cases hnamespace : pod.integration.name.namespace_ = key.namespace_
  · rw [hserves.wanted key trigger (hseen key trigger htrigger hnamespace.symm), Ledger.wanted, hwatch]
    simp only [Option.bind_some, hexpected, Option.some.injEq, hnamespace, true_and]
    exact eq_comm
  · have hunknown : pod.watcher.triggers key = none := by
      cases hknown : pod.watcher.triggers key with
      | none => rfl
      | some t =>
        rcases (hserves.known key t hknown).2 with hempty | hscope
        · exact absurd hempty (h.own pod hpod).2.2
        · exact absurd hscope.symm hnamespace
    rw [hserves.unknown key hunknown]
    simp [hnamespace]

theorem Deployed.subscribedByOwn_iff (h : Deployed quote environ type c pods) :
    L.SubscribedByOwn c pods ↔ L.OwnGateways c pods := by
  constructor
  · intro hown key trigger watch config hsub pod hpod hnamespace
    exact (hown key trigger watch config hsub pod hpod).mp
      ⟨config, (h.runs_iff hpod hsub).mpr ⟨hnamespace, rfl⟩⟩
  · intro hown key trigger watch config hsub pod hpod
    constructor
    · rintro ⟨config', hruns⟩
      obtain ⟨hnamespace, _⟩ := (h.runs_iff hpod hsub).mp hruns
      exact hown key trigger watch config hsub pod hpod hnamespace
    · intro hname
      refine ⟨config, (h.runs_iff hpod hsub).mpr ⟨?_, rfl⟩⟩
      rw [hname, ← c.keyed key trigger hsub.1]
      rfl

end Fleet

/-! ## A message on a core NATS subject -/

/-- The answers to a handler whose `Create` succeeds. -/
def natsAnswers (msg : Nats.Msg) (stamp : Time × Bytes) : (q : Nats.Req) → q.Reply
  | .receive _ => msg
  | .stamp => stamp
  | .create .. => .created
  | .ack _ | .nak _ => none

def createdRuns (lib : BrokerLib) (h : Nats.MessageHandler) (msg : Nats.Msg)
    (stamp : Time × Bytes) : List FlowRun :=
  ((Nats.onMessage lib h msg).replay (natsAnswers msg stamp)).1.filterMap fun
    | .create _ run => some run
    | _ => none

theorem createdRuns_core {lib : BrokerLib} {h : Nats.MessageHandler} {msg : Nats.Msg}
    {stamp : Time × Bytes} (hcore : h.isJetStream = false) :
    createdRuns lib h msg stamp =
      [Nats.natsFlowRun lib h msg (Nats.coreRunName h stamp.1 stamp.2)] := by
  obtain ⟨name, namespace_, flow, isJetStream⟩ := h
  cases hcore
  rfl

def FlowRun.ofTrigger (key : NamespacedName) (run : FlowRun) : Bool :=
  run.metadata.name.namespace_ == key.namespace_ && run.spec.triggerRef.any (·.name == key.name)

section Messages

variable {lib : WatcherLib}

/-- The FlowRuns that subscriptions create from a message: the server gives it to each that
it reaches. -/
def natsRuns (blib : BrokerLib) (reaches : NatsConfig → Bool) (msg : Nats.Msg)
    (stamp : Subscription NatsRemembered NatsConfig → Time × Bytes)
    (live : List (Subscription NatsRemembered NatsConfig)) : List FlowRun :=
  (live.filter fun sub => reaches sub.config).flatMap fun sub =>
    createdRuns blib sub.config.handler msg (stamp sub)

def publish (blib : BrokerLib) (reaches : NatsConfig → Bool) (msg : Nats.Msg)
    (stamp : Pod (natsBroker lib) → Subscription NatsRemembered NatsConfig → Time × Bytes)
    (pods : List (Pod (natsBroker lib))) : List FlowRun :=
  pods.flatMap fun pod => natsRuns blib reaches msg (stamp pod) pod.watcher.live

theorem flatMap_of_single {α β : Type} {l : List α} {f : α → List β} {a : α} (hl : l.Nodup)
    (ha : a ∈ l) (hother : ∀ x ∈ l, x ≠ a → f x = []) : l.flatMap f = f a := by
  induction l with
  | nil => cases ha
  | cons x rest ih =>
    obtain ⟨hx, hrest⟩ := List.nodup_cons.mp hl
    rw [List.flatMap_cons]
    by_cases heq : x = a
    · subst heq
      have hnil : rest.flatMap f = [] := List.flatMap_eq_nil_iff.mpr fun y hy =>
        hother y (List.mem_cons_of_mem _ hy) fun heq => hx (heq ▸ hy)
      rw [hnil, List.append_nil]
    · have hmem : a ∈ rest := (List.mem_cons.mp ha).resolve_left fun h => heq h.symm
      rw [hother x List.mem_cons_self heq, List.nil_append]
      exact ih hrest hmem fun y hy => hother y (List.mem_cons_of_mem _ hy)

theorem length_flatMap_countP {α β : Type} {l : List α} {f : α → List β} {p : α → Bool}
    (h : ∀ x ∈ l, (f x).length = if p x then 1 else 0) : (l.flatMap f).length = l.countP p := by
  induction l with
  | nil => rfl
  | cons x rest ih =>
    rw [List.flatMap_cons, List.length_append, List.countP_cons, h x List.mem_cons_self,
      ih fun y hy => h y (List.mem_cons_of_mem _ hy), Nat.add_comm]

theorem natsFlowRun_ofTrigger {blib : BrokerLib} {msg : Nats.Msg} {name : String}
    {key sub_key : NamespacedName} {sub : Subscription NatsRemembered NatsConfig}
    (hmade : (natsLedger lib).Made sub_key sub) :
    FlowRun.ofTrigger key (Nats.natsFlowRun blib sub.config.handler msg name) =
      decide (sub_key = key) := by
  obtain ⟨s, t, watch, spec, creds, rfl, hbuild, _⟩ := hmade
  obtain ⟨_, _, hname, hnamespace⟩ := natsConfig_eq hbuild
  obtain ⟨keyNamespace, keyName⟩ := key
  have hkey : (t.key = ⟨keyNamespace, keyName⟩) ↔
      t.key.namespace_ = keyNamespace ∧ t.key.name = keyName := by
    cases t.key
    simp
  simp [FlowRun.ofTrigger, Nats.natsFlowRun, triggeredFlowRun, hname, hnamespace, hkey,
    Bool.decide_and, beq_eq_decide]

theorem mem_createdRuns {blib : BrokerLib} {h : Nats.MessageHandler} {msg : Nats.Msg}
    {stamp : Time × Bytes} {run : FlowRun} (hrun : run ∈ createdRuns blib h msg stamp) :
    ∃ name, run = Nats.natsFlowRun blib h msg name := by
  obtain ⟨trigger, namespace_, flow, isJetStream⟩ := h
  cases isJetStream with
  | false => exact ⟨_, List.mem_singleton.mp hrun⟩
  | true =>
    obtain ⟨payload, metadata⟩ := msg
    cases metadata with
    | error err => cases hrun
    | ok md => exact ⟨_, List.mem_singleton.mp hrun⟩

variable {c : Cluster} {quote : String → String} {environ : Environ} {blib : BrokerLib}

/-- Of a message that reaches the subscription of a Trigger, one FlowRun is created. -/
def OneRunPerTrigger (quote : String → String) (environ : Environ) (blib : BrokerLib) (c : Cluster)
    (pods : List (Pod (natsBroker lib))) : Prop :=
  ∀ reaches msg stamp key trigger watch config integration,
    (natsLedger lib).Subscribable c key trigger watch config →
    config.handler.isJetStream = false → reaches config = true →
    c.integrations ((natsBroker lib).integrationKey trigger watch) = some integration →
    integration.type = .nats → (reconciledGateway quote environ integration).isSome →
    ((publish blib reaches msg stamp pods).filter (FlowRun.ofTrigger key)).length = 1

theorem created_of_other {key : NamespacedName} {sub : Subscription NatsRemembered NatsConfig}
    {msg : Nats.Msg} {stamp : Time × Bytes} (hmade : (natsLedger lib).Made sub.key sub)
    (hkey : sub.key ≠ key) :
    (createdRuns blib sub.config.handler msg stamp).filter (FlowRun.ofTrigger key) = [] := by
  refine List.filter_eq_nil_iff.mpr fun run hrun => ?_
  obtain ⟨name, rfl⟩ := mem_createdRuns hrun
  rw [natsFlowRun_ofTrigger hmade]
  simpa using hkey

section Live

variable {live : List (Subscription NatsRemembered NatsConfig)} {reaches : NatsConfig → Bool}
  {msg : Nats.Msg} {stamp : Subscription NatsRemembered NatsConfig → Time × Bytes}
  {key : NamespacedName}

theorem natsRuns_subscribed {sub : Subscription NatsRemembered NatsConfig} (honce : live.Nodup)
    (hmade : ∀ sub ∈ live, (natsLedger lib).Made sub.key sub) (hsub : sub ∈ live)
    (hkey : sub.key = key) (hother : ∀ other ∈ live, other.key = key → other = sub)
    (hcore : sub.config.handler.isJetStream = false) (hreaches : reaches sub.config = true) :
    ((natsRuns blib reaches msg stamp live).filter (FlowRun.ofTrigger key)).length = 1 := by
  have hmem : sub ∈ live.filter fun sub => reaches sub.config :=
    List.mem_filter.mpr ⟨hsub, hreaches⟩
  have hown : FlowRun.ofTrigger key (Nats.natsFlowRun blib sub.config.handler msg
      (Nats.coreRunName sub.config.handler (stamp sub).1 (stamp sub).2)) = true := by
    rw [natsFlowRun_ofTrigger (hmade sub hsub)]
    exact decide_eq_true hkey
  unfold natsRuns
  rw [List.filter_flatMap, flatMap_of_single (honce.filter _) hmem]
  · rw [createdRuns_core hcore, List.filter_cons_of_pos hown]
    rfl
  · intro other hmem' hne
    have hmem' := (List.mem_filter.mp hmem').1
    exact created_of_other (hmade other hmem') fun heq => hne (hother other hmem' heq)

theorem natsRuns_unsubscribed (hmade : ∀ sub ∈ live, (natsLedger lib).Made sub.key sub)
    (hnone : ∀ sub ∈ live, sub.key ≠ key) :
    ((natsRuns blib reaches msg stamp live).filter (FlowRun.ofTrigger key)).length = 0 := by
  unfold natsRuns
  rw [List.filter_flatMap, List.length_eq_zero_iff, List.flatMap_eq_nil_iff]
  intro other hmem
  have hmem := (List.mem_filter.mp hmem).1
  exact created_of_other (hmade other hmem) (hnone other hmem)

end Live

theorem Deployed.length_created {pods : List (Pod (natsBroker lib))} {pod : Pod (natsBroker lib)}
    (h : Deployed quote environ .nats c pods) (hpod : pod ∈ pods) {key : NamespacedName}
    {trigger : Trigger} {watch : NatsWatch} {config : NatsConfig} {reaches : NatsConfig → Bool}
    {msg : Nats.Msg} {stamp : Subscription NatsRemembered NatsConfig → Time × Bytes}
    (hsub : (natsLedger lib).Subscribable c key trigger watch config)
    (hcore : config.handler.isJetStream = false) (hreaches : reaches config = true) :
    ((natsRuns blib reaches msg stamp pod.watcher.live).filter (FlowRun.ofTrigger key)).length =
      if pod.integration.name.namespace_ = key.namespace_ then 1 else 0 := by
  obtain ⟨hserves, _⟩ := h.serves (L := natsLedger lib) hpod
  have hstored := hserves.coherent.stored
  have hmade : ∀ sub ∈ pod.watcher.live, (natsLedger lib).Made sub.key sub := fun sub hmem =>
    hserves.made sub.key sub (hstored sub hmem)
  by_cases hnamespace : pod.integration.name.namespace_ = key.namespace_
  · rw [if_pos hnamespace]
    obtain ⟨sub, hlive, hkey, hconfig⟩ := (h.runs_iff hpod hsub).mpr ⟨hnamespace, rfl⟩
    have hother : ∀ other ∈ pod.watcher.live, other.key = key → other = sub := by
      intro other hmem heq
      have hfound := hstored other hmem
      rw [heq, ← hkey, hstored sub hlive] at hfound
      exact (Option.some.inj hfound).symm
    subst hconfig
    exact natsRuns_subscribed hserves.coherent.once hmade hlive hkey hother hcore hreaches
  · rw [if_neg hnamespace]
    refine natsRuns_unsubscribed hmade fun other hmem heq => hnamespace ?_
    have hruns : pod.watcher.Runs key other.config := ⟨other, hmem, heq, rfl⟩
    exact ((h.runs_iff hpod hsub).mp hruns).1

theorem Deployed.oneRunPerTrigger {pods : List (Pod (natsBroker lib))}
    (h : Deployed quote environ .nats c pods) (hreplicas : Replicated quote environ .nats c pods)
    (hown : (natsLedger lib).OwnGateways c pods) : OneRunPerTrigger quote environ blib c pods := by
  intro reaches msg stamp key trigger watch config integration hsub hcore hreaches hintegration
    htype hgateway
  obtain ⟨gateway, hgateway⟩ := Option.isSome_iff_exists.mp hgateway
  have hname := c.named _ _ hintegration
  have hkey := c.keyed key trigger hsub.1
  calc ((publish blib reaches msg stamp pods).filter (FlowRun.ofTrigger key)).length
      = pods.countP (·.integration = integration) := by
        unfold publish
        rw [List.filter_flatMap]
        refine length_flatMap_countP fun pod hpod => ?_
        rw [h.length_created hpod hsub hcore hreaches]
        have hiff : pod.integration.name.namespace_ = key.namespace_ ↔
            pod.integration = integration := by
          constructor
          · intro hnamespace
            have hsame := hown key trigger watch config hsub pod hpod hnamespace
            have hfound := (h.own pod hpod).1
            rw [hsame, hintegration] at hfound
            exact (Option.some.inj hfound).symm
          · intro heq
            rw [heq, hname, ← hkey]
            rfl
        simp only [hiff, decide_eq_true_eq]
    _ = gateway.replicas := hreplicas _ integration gateway hintegration htype hgateway
    _ = 1 := (reconciledGateway_eq hgateway).1

end Messages

/-- Every enabled Trigger is subscribed to by exactly the pods of the Integration that it references
where, and only where, the gateways of the broker in its namespace are those of that Integration;
and then one FlowRun per Trigger is created of a message on a core NATS subject. -/
theorem triggers_handled_by_own_gateway (lib : WatcherLib) (blib : BrokerLib)
    (quote : String → String) (environ : Environ) {c : Cluster}
    {pods : (type : BrokerType) → List (Pod (type.broker lib))}
    (hdeployed : ∀ type : BrokerType, Deployed quote environ type.integrationType c (pods type))
    (hreplicas : Replicated quote environ .nats c (pods .nats)) :
    (∀ type : BrokerType, (type.ledger lib).SubscribedByOwn c (pods type) ↔
      (type.ledger lib).OwnGateways c (pods type)) ∧
    ((natsLedger lib).OwnGateways c (pods .nats) →
      @OneRunPerTrigger lib quote environ blib c (pods .nats)) :=
  ⟨fun type => (hdeployed type).subscribedByOwn_iff,
    Deployed.oneRunPerTrigger (hdeployed .nats) hreplicas⟩

/-! ## Two NATS Integrations, in two namespaces or in one -/

section Events

def natsIntegration (namespace_ name : String) : Integration where
  name := ⟨namespace_, name⟩
  type := .nats
  nats := some { servers := ["nats:4222"] }

def natsTrigger (namespace_ subject integrationRef : String) : Trigger where
  metadata := { name := ⟨namespace_, subject⟩ }
  spec :=
    { type := .nats
      flowRef := "intake"
      nats := some { integrationRef := integrationRef, subject := subject } }

/-- The namespace is that of the second Integration and of its Trigger. -/
def fleetTriggers (ns : String) : List Trigger :=
  [natsTrigger "default" "orders" "events", natsTrigger ns "returns" "audit"]

def fleetCluster (ns : String) : Cluster :=
  ((((Cluster.empty.apply (.setIntegration (natsIntegration "default" "events"))).apply
    (.setIntegration (natsIntegration ns "audit"))).apply
    (.setTrigger (natsTrigger "default" "orders" "events"))).apply
    (.setTrigger (natsTrigger ns "returns" "audit")))

def fleetPod (ns : String) (integration : Integration) : Pod (natsBroker default) where
  integration := integration
  watcher := ((fleetTriggers ns).filter (·.key.namespace_ = integration.name.namespace_)).foldl
    (fun w trigger => ((reconcileTrigger (natsBroker default) trigger).simulate
      (fun w q => some (Req.answer (fleetCluster ns).sources w q)) w).2.1) (.start _)

def fleetPods (ns : String) : List (Pod (natsBroker default)) :=
  [fleetPod ns (natsIntegration "default" "events"), fleetPod ns (natsIntegration ns "audit")]

def natsFleet (pods : List (Pod (natsBroker default))) :
    (type : BrokerType) → List (Pod (type.broker default))
  | .kafka => []
  | .amqp => []
  | .nats => pods

def unsetEnviron : Environ := fun _ => ""

def subjectMsg (subject : String) : Nats.Msg where
  subject := subject
  data := []
  metadata := .error "not a JetStream message"

variable {ns : String}

theorem fleetCluster_triggers {key : NamespacedName} {t : Trigger} :
    (fleetCluster ns).triggers key = some t ↔ t ∈ fleetTriggers ns ∧ t.key = key := by
  change update (update (fun _ => none) ordersKey (some (natsTrigger "default" "orders" "events")))
    ⟨ns, "returns"⟩ (some (natsTrigger ns "returns" "audit")) key = some t ↔ _
  rw [update_apply, update_apply]
  constructor
  · intro h
    split_ifs at h with hkey hkey <;> cases h <;> subst hkey <;> exact ⟨by simp [fleetTriggers], rfl⟩
  · rintro ⟨hmem, rfl⟩
    rcases List.mem_cons.mp hmem with rfl | hmem
    · have hne : (natsTrigger "default" "orders" "events").key ≠ ⟨ns, "returns"⟩ := by
        simp [natsTrigger, Trigger.key]
      exact (if_neg hne).trans (if_pos rfl)
    · cases List.mem_singleton.mp hmem
      exact if_pos rfl

theorem fleetCluster_integrations {name : NamespacedName} {integration : Integration} :
    (fleetCluster ns).integrations name = some integration ↔
      (integration = natsIntegration "default" "events" ∨
        integration = natsIntegration ns "audit") ∧ integration.name = name := by
  change update (update (fun _ => none) ⟨"default", "events"⟩
    (some (natsIntegration "default" "events"))) ⟨ns, "audit"⟩
    (some (natsIntegration ns "audit")) name = some integration ↔ _
  rw [update_apply, update_apply]
  constructor
  · intro h
    split_ifs at h with hname hname
    · cases h
      exact ⟨.inr rfl, hname.symm⟩
    · cases h
      exact ⟨.inl rfl, hname.symm⟩
  · rintro ⟨rfl | rfl, rfl⟩
    · have hne : (natsIntegration "default" "events").name ≠ ⟨ns, "audit"⟩ := by
        simp [natsIntegration]
      exact (if_neg hne).trans (if_pos rfl)
    · exact if_pos rfl

theorem fleetPod_watched {integration : Integration} (hns : integration.name.namespace_ ≠ "") :
    (fleetCluster ns).Watched integration.name.namespace_ (fleetPod ns integration).watcher := by
  refine ⟨((fleetTriggers ns).filter (·.key.namespace_ = integration.name.namespace_)).map
    .setTrigger, ?_, ?_⟩
  · unfold fleetPod
    have hmem : ∀ t ∈ (fleetTriggers ns).filter
        (·.key.namespace_ = integration.name.namespace_),
        (fleetCluster ns).Delivers integration.name.namespace_ (.setTrigger t) := by
      intro t ht
      obtain ⟨ht, hscope⟩ := List.mem_filter.mp ht
      exact ⟨fleetCluster_triggers.mpr ⟨ht, rfl⟩, .inr (of_decide_eq_true hscope)⟩
    revert hmem
    generalize (fleetTriggers ns).filter _ = triggers
    intro hmem
    induction triggers using List.reverseRecOn with
    | nil => exact .nil
    | append_singleton triggers t ih =>
      rw [List.map_append, List.foldl_append]
      exact .snoc (ih fun t ht => hmem t (List.mem_append_left _ ht))
        ⟨hmem t (by simp), completes_simulate (Req.answer_connected _) _ _⟩
  · intro key t ht hscope
    obtain ⟨hmem, rfl⟩ := fleetCluster_triggers.mp ht
    refine List.mem_map_of_mem (List.mem_filter.mpr ⟨hmem, decide_eq_true ?_⟩)
    exact hscope.resolve_left hns

theorem fleet_deployed (hns : ns ≠ "") :
    Deployed id unsetEnviron .nats (fleetCluster ns) (fleetPods ns) := by
  have hpods {pod : Pod (natsBroker default)} (hpod : pod ∈ fleetPods ns) :
      ∃ namespace_ name, pod = fleetPod ns (natsIntegration namespace_ name) ∧ namespace_ ≠ "" ∧
        (fleetCluster ns).integrations ⟨namespace_, name⟩ =
          some (natsIntegration namespace_ name) := by
    rcases List.mem_cons.mp hpod with rfl | hpod
    · exact ⟨_, _, rfl, by decide, fleetCluster_integrations.mpr ⟨.inl rfl, rfl⟩⟩
    · cases List.mem_singleton.mp hpod
      exact ⟨_, _, rfl, hns, fleetCluster_integrations.mpr ⟨.inr rfl, rfl⟩⟩
  constructor
  · intro pod hpod
    obtain ⟨namespace_, name, rfl, hnonempty, hfound⟩ := hpods hpod
    exact ⟨hfound, rfl, hnonempty⟩
  · intro pod hpod
    obtain ⟨namespace_, name, rfl, hnonempty, -⟩ := hpods hpod
    have hgateway : reconciledGateway id unsetEnviron (natsIntegration namespace_ name) =
        some (desiredNatsGatewayDeployment unsetEnviron (natsIntegration namespace_ name)) := rfl
    have hmain := gatewayMain_reconciled hgateway
    rw [if_neg (by decide)] at hmain
    have hwatched := @fleetPod_watched ns (natsIntegration namespace_ name) hnonempty
    exact ⟨_, namespace_, hgateway, hmain, hwatched⟩

theorem fleet_replicated : Replicated id unsetEnviron .nats (fleetCluster ns) (fleetPods ns) := by
  intro name integration gateway hintegration _ hgateway
  rw [(reconciledGateway_eq hgateway).1]
  rcases (fleetCluster_integrations.mp hintegration).1 with rfl | rfl <;>
    simp [fleetPods, fleetPod, natsIntegration]

theorem natsTrigger_subscribable {c : Cluster} {namespace_ subject ref : String}
    (hc : c.triggers ⟨namespace_, subject⟩ = some (natsTrigger namespace_ subject ref))
    (hi : c.integrations ⟨namespace_, ref⟩ = some (natsIntegration namespace_ ref)) :
    (natsLedger default).Subscribable c ⟨namespace_, subject⟩ (natsTrigger namespace_ subject ref)
      ⟨ref, subject⟩
      { servers := "nats:4222"
        tls := none
        login := .anonymous
        subject := subject
        durable := none
        handler := ⟨subject, namespace_, "intake", false⟩ } := by
  refine ⟨hc, rfl, ?_⟩
  have hread : c.sources (.getIntegration ((natsBroker default).integrationKey
      (natsTrigger namespace_ subject ref) ⟨ref, subject⟩)) =
      .ok (natsIntegration namespace_ ref) := by
    change c.sources (.getIntegration ⟨namespace_, ref⟩) = _
    simp only [Cluster.sources, hi]
  unfold Ledger.expected
  rw [hread]
  rfl

/-- Two Integrations in two namespaces: each gateway subscribes to the Trigger of its own, and a
message gives one FlowRun. -/
theorem triggers_handled_by_own_gateway_fleet :
    (natsLedger default).SubscribedByOwn (fleetCluster "staging") (fleetPods "staging") ∧
    ∀ ref ∈ [("default", "orders", "events"), ("staging", "returns", "audit")],
      ((publish default (·.subject = ref.2.1) (subjectMsg ref.2.1) (fun _ _ => (0, []))
        (fleetPods "staging")).filter (FlowRun.ofTrigger ⟨ref.1, ref.2.1⟩)).length = 1 := by
  have hdeployed : ∀ type : BrokerType, Deployed id unsetEnviron type.integrationType
      (fleetCluster "staging") (natsFleet (fleetPods "staging") type) := by
    intro type
    cases type with
    | kafka | amqp => exact ⟨fun _ h => (by cases h), fun _ h => (by cases h)⟩
    | nats => exact fleet_deployed (by decide)
  have hown : (natsLedger default).OwnGateways (fleetCluster "staging") (fleetPods "staging") := by
    intro key trigger watch config hsub pod hpod hnamespace
    obtain ⟨hmem, rfl⟩ := fleetCluster_triggers.mp hsub.1
    have hwatch := hsub.2.1
    rcases List.mem_cons.mp hmem with rfl | hmem <;> rcases List.mem_cons.mp hpod with rfl | hpod
    · cases hwatch
      rfl
    · cases List.mem_singleton.mp hpod
      exact absurd hnamespace (by decide)
    · cases List.mem_singleton.mp hmem
      exact absurd hnamespace (by decide)
    · cases List.mem_singleton.mp hmem
      cases List.mem_singleton.mp hpod
      cases hwatch
      rfl
  have hfleet := triggers_handled_by_own_gateway default default id unsetEnviron hdeployed
    fleet_replicated
  refine ⟨(hfleet.1 .nats).mpr hown, ?_⟩
  rintro ⟨namespace_, subject, ref⟩ hmem
  have htrigger : (fleetCluster "staging").triggers ⟨namespace_, subject⟩ =
      some (natsTrigger namespace_ subject ref) ∧
      (fleetCluster "staging").integrations ⟨namespace_, ref⟩ =
        some (natsIntegration namespace_ ref) := by
    rcases List.mem_cons.mp hmem with heq | hmem
    · cases heq
      exact ⟨fleetCluster_triggers.mpr ⟨List.mem_cons_self, rfl⟩,
        fleetCluster_integrations.mpr ⟨.inl rfl, rfl⟩⟩
    · cases List.mem_singleton.mp hmem
      exact ⟨fleetCluster_triggers.mpr ⟨List.mem_cons_of_mem _ List.mem_cons_self, rfl⟩,
        fleetCluster_integrations.mpr ⟨.inr rfl, rfl⟩⟩
  exact hfleet.2 hown _ _ _ ⟨namespace_, subject⟩ _ _ _ (natsIntegration namespace_ ref)
    (natsTrigger_subscribable htrigger.1 htrigger.2) rfl (decide_eq_true rfl) htrigger.2 rfl rfl

/-- With a second NATS Integration in the namespace, its gateway subscribes as well, and a message
gives two FlowRuns. -/
theorem two_gateways_subscribe :
    ∃ (c : Cluster) (pods : List (Pod (natsBroker default))),
      Deployed id unsetEnviron .nats c pods ∧ Replicated id unsetEnviron .nats c pods ∧
      ¬ (natsLedger default).SubscribedByOwn c pods ∧
      ((publish default (·.subject = "orders") (subjectMsg "orders")
        (fun pod _ => if pod.integration.name.name = "events" then (0, []) else (1, [])) pods).filter
          (FlowRun.ofTrigger ordersKey)).length = 2 := by
  have hdeployed := @fleet_deployed "default" (by decide)
  have hsub := natsTrigger_subscribable
    (fleetCluster_triggers.mpr ⟨List.mem_cons_self, rfl⟩ :
      (fleetCluster "default").triggers ⟨"default", "orders"⟩ =
        some (natsTrigger "default" "orders" "events"))
    (fleetCluster_integrations.mpr ⟨.inl rfl, rfl⟩)
  refine ⟨_, _, hdeployed, fleet_replicated, ?_, ?_⟩
  · intro hbyOwn
    have haudit : fleetPod "default" (natsIntegration "default" "audit") ∈ fleetPods "default" :=
      List.mem_cons_of_mem _ List.mem_cons_self
    have hruns := (hdeployed.runs_iff haudit hsub).mpr ⟨rfl, rfl⟩
    have hname := (hbyOwn _ _ _ _ hsub _ haudit).mp ⟨_, hruns⟩
    exact absurd hname (by decide)
  · decide +kernel

end Events

end KubeZap.Gateway
