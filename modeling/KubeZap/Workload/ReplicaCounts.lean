import KubeZap.Workload.WebhookGateway
import KubeZap.Workload.IntegrationControl

/-! # The replicas of a gateway

An HPA scales the webhook gateway and KEDA a Kafka gateway, by writing `spec.replicas` of
their Deployments. Both Deployments are built with one replica, and what is built is
written over what is there: whatever the count was, it is one afterwards.
-/

namespace KubeZap.Workload

open Foundation

variable {Extra : Type} {ExtraReply : Extra → Type} {W : Type} {server : ApiServer}
variable {name : NamespacedName}

/-! ## What is sent -/

/-- A Deployment that is sent has one replica, and none is deleted. -/
def OneReplica : ObjectReq ObjectKey ObjectKey.Object Extra → Prop
  | .create ⟨.deployment, _⟩ deployment => (deployment : Deployment).spec.replicas = some 1
  | .update ⟨.deployment, _⟩ deployment => (deployment : Deployment).spec.replicas = some 1
  | .delete ⟨.deployment, _⟩ => False
  | _ => True

def HasOneReplica (name : NamespacedName) (w : ObjectWorld ObjectKey.Object W) : Prop :=
  ∃ live : Deployment, w.objects ⟨.deployment, name⟩ = some live ∧ live.spec.replicas = some 1

variable {w w' : ObjectWorld ObjectKey.Object W}

theorem HasOneReplica.congr (h : HasOneReplica name w)
    (heq : w'.objects ⟨.deployment, name⟩ = w.objects ⟨.deployment, name⟩) :
    HasOneReplica name w' := by
  unfold HasOneReplica
  rw [heq]
  exact h

variable {other : Env (ObjectWorld ObjectKey.Object W) ExtraReply}

theorem HasOneReplica.served {q : ObjectReq ObjectKey ObjectKey.Object Extra}
    {x : ObjectReply ExtraReply q} (hother : ∀ w q x w', other w q x w' →
      w'.objects ⟨.deployment, name⟩ = w.objects ⟨.deployment, name⟩) (hq : OneReplica q)
    (h : HasOneReplica name w)
    (hserved : ObjectServed server.admitted other w q x w') : HasOneReplica name w' := by
  cases hserved with
  | @create key obj hnone =>
    by_cases hkey : key = ⟨.deployment, name⟩
    · subst hkey
      obtain ⟨live, hlive, -⟩ := h
      cases hnone.symm.trans hlive
    · exact h.congr (ObjectWorld.objects_store_of_ne (Ne.symm hkey))
  | @update key obj old hold =>
    by_cases hkey : key = ⟨.deployment, name⟩
    · subst hkey
      exact ⟨_, ObjectWorld.objects_store_self, server.replicas_kept _ _ hq⟩
    · exact h.congr (ObjectWorld.objects_store_of_ne (Ne.symm hkey))
  | @delete key _ =>
    by_cases hkey : key = ⟨.deployment, name⟩
    · subst hkey
      exact hq.elim
    · exact h.congr (Function.update_of_ne (Ne.symm hkey) _ _)
  | extra hx => exact h.congr (hother _ _ _ _ hx)
  | _ => exact h

theorem HasOneReplica.exec {α : Type} {p : ControlProgram ExtraReply α}
    {tr : List (Event (@ObjectReply _ ObjectKey.Object _ ExtraReply))} {o : Option α}
    (hother : ∀ w q x w', other w q x w' →
      w'.objects ⟨.deployment, name⟩ = w.objects ⟨.deployment, name⟩) (hp : p.Asks OneReplica)
    (h : HasOneReplica name w) (hrun : Exec (ObjectServed server.admitted other) w p tr w' o) :
    HasOneReplica name w' :=
  hrun.invariant hp (HasOneReplica name)
    (fun _ _ _ _ hq hw hx => hw.served hother hq hx) h

/-- A count of one stays, wherever a run ends; a run that succeeds keeps no other count. -/
def KeptExactlyAtOne {α : Type}
    (env : Env (ObjectWorld ObjectKey.Object W) (@ObjectReply _ ObjectKey.Object _ ExtraReply))
    (p : ControlProgram ExtraReply (Except ControlError α)) (name : NamespacedName) : Prop :=
  ∀ (w w' : ObjectWorld ObjectKey.Object W) (live : Deployment),
    w.objects ⟨.deployment, name⟩ = some live →
    (live.spec.replicas = some 1 → ∀ tr o, Exec env w p tr w' o →
      ∃ live' : Deployment, w'.objects ⟨.deployment, name⟩ = some live' ∧
        live'.spec.replicas = live.spec.replicas) ∧
    ∀ a, Completes env w p w' (.ok a) →
      ∃ live' : Deployment, w'.objects ⟨.deployment, name⟩ = some live' ∧
        (live'.spec.replicas = live.spec.replicas ↔ live.spec.replicas = some 1)

theorem keptExactlyAtOne {α : Type} {p : ControlProgram ExtraReply (Except ControlError α)}
    (hother : ∀ w q x w', other w q x w' →
      w'.objects ⟨.deployment, name⟩ = w.objects ⟨.deployment, name⟩) (hp : p.Asks OneReplica)
    (hleft : ∀ w w' a, Completes (ObjectServed server.admitted other) w p w' (.ok a) →
      HasOneReplica name w') :
    KeptExactlyAtOne (ObjectServed server.admitted other) p name := by
  intro w w' live hlive
  refine ⟨?_, ?_⟩
  · intro hone tr o hrun
    rw [hone]
    exact HasOneReplica.exec hother hp ⟨live, hlive, hone⟩ hrun
  · intro a hrun
    obtain ⟨live', hlive', hone⟩ := hleft w w' a hrun
    exact ⟨live', hlive', by rw [hone, eq_comm]⟩

variable {util : ControllerUtil ExtraReply} {context : String}

theorem hasOneReplica_upsert {desired : Deployment} {change : Deployment → Deployment}
    (hchange : ∀ live, (change live).spec.replicas = some 1)
    (h : Completes (ObjectServed server.admitted other) w
      (inContext context (upsert util ⟨.deployment, name⟩ desired change)) w' (.ok ())) :
    HasOneReplica name w' := by
  obtain ⟨_, obj, sent, heq, hstored⟩ := util.written _ _ _ _ _ _ _ (completes_inContext h)
  cases heq
  obtain hstored | ⟨old, hstored⟩ := hstored
  · exact ⟨_, hstored, hchange obj⟩
  · exact ⟨_, hstored, server.replicas_kept _ _ (hchange obj)⟩

theorem oneReplica_upsert {key : ObjectKey} {desired : key.Object}
    {change : key.Object → key.Object} (hkind : key.kind ≠ .deployment) :
    (inContext context (upsert util key desired change)).Asks OneReplica := by
  obtain ⟨kind, name⟩ := key
  refine asks_inContext (asks_upsert trivial ?_)
  intro obj
  cases kind with
  | deployment => exact absurd rfl hkind
  | _ => exact ⟨trivial, trivial⟩

/-! ## The webhook gateway -/

section Webhook

variable {util : ControllerUtil WebhookReq.Reply} {quote : String → String} {environ : Environ}
variable {ns : String} {w w' : GatewayWorld}
variable {cfg : WebhookGatewayConfig}

theorem oneReplica_checkSecret {field name : String} {entries : List String}
    {notFound getFailed missing missingText : String} :
    (checkSecret quote cfg field name entries notFound getFailed missing missingText).Asks
      OneReplica := by
  refine Program.Asks.request trivial ?_
  intro x
  cases x with
  | error err => cases err <;> trivial
  | ok secret =>
    simp only
    split <;> trivial

theorem oneReplica_validateWebhookGatewayConfigTLS :
    (validateWebhookGatewayConfigTLS quote cfg).Asks OneReplica := by
  unfold validateWebhookGatewayConfigTLS
  split
  · trivial
  · split
    · trivial
    · refine oneReplica_checkSecret.bind ?_
      intro found
      cases found with
      | some condition => trivial
      | none =>
        simp only
        split
        · trivial
        · exact oneReplica_checkSecret.bind fun _ => trivial

theorem oneReplica_reconcileWebhookGatewayConfigStatus :
    (reconcileWebhookGatewayConfigStatus quote cfg).Asks OneReplica :=
  oneReplica_validateWebhookGatewayConfigTLS.bind fun _ => ⟨trivial, fun _ => trivial⟩

theorem oneReplica_getWebhookGatewayConfig : (getWebhookGatewayConfig ns).Asks OneReplica := by
  refine ⟨trivial, ?_⟩
  intro x
  cases x with
  | ok cfg => trivial
  | error err => cases err <;> trivial

theorem mutateWebhookGatewayDeployment_replicas {tlsCfg : WebhookGatewayTLSConfig}
    (live : Deployment) :
    (mutateWebhookGatewayDeployment (desiredWebhookGatewayDeployment environ ns tlsCfg)
      live).spec.replicas = some 1 := by
  have hnot : ¬ (live.spec.replicas.isSome ∧
      (desiredWebhookGatewayDeployment environ ns tlsCfg).spec.replicas.isNone) :=
    fun h => Bool.false_ne_true h.2
  rw [mutateWebhookGatewayDeployment, if_neg hnot]
  rfl

theorem oneReplica_reconcileWebhookGatewayPDB {cfg : Option WebhookGatewayConfig} :
    (reconcileWebhookGatewayPDB util ns cfg).Asks OneReplica := by
  unfold reconcileWebhookGatewayPDB
  split
  · refine ⟨trivial, ?_⟩
    intro x
    cases x with
    | error err => cases err <;> trivial
    | ok pdb =>
      refine ⟨trivial, ?_⟩
      intro reply
      rcases reply with _ | _ | _ | _ | _ <;> trivial
  · exact asks_inContext (asks_upsert trivial fun _ => ⟨trivial, trivial⟩)

theorem oneReplica_reconcileWebhookGatewayHPA {cfg : Option WebhookGatewayConfig} :
    (reconcileWebhookGatewayHPA util ns cfg).Asks OneReplica := by
  refine ⟨trivial, ?_⟩
  intro x
  cases x with
  | error err =>
    cases err with
    | notFound =>
      refine ⟨trivial, ?_⟩
      intro reply
      rcases reply with _ | _ | _ | _ | _ <;> trivial
    | alreadyExists | conflict | other => trivial
  | ok existing =>
    refine ⟨trivial, ?_⟩
    intro reply
    cases reply with
    | some err => trivial
    | none => exact oneReplica_reconcileWebhookGatewayPDB

theorem oneReplica_ensureWebhookGatewayObjects {tlsCfg : WebhookGatewayTLSConfig} :
    (ensureWebhookGatewayObjects util environ ns tlsCfg).Asks OneReplica := by
  refine Program.Asks.tryThen (oneReplica_upsert nofun) fun _ =>
    Program.Asks.tryThen (oneReplica_upsert nofun) fun _ =>
      Program.Asks.tryThen (oneReplica_upsert nofun) fun _ =>
        Program.Asks.tryThen (oneReplica_upsert nofun) fun _ => ?_
  refine asks_inContext (asks_upsert trivial ?_)
  intro live
  exact ⟨mutateWebhookGatewayDeployment_replicas live, mutateWebhookGatewayDeployment_replicas live⟩

theorem oneReplica_ensureWebhookGateway :
    (ensureWebhookGateway util quote environ ns).Asks OneReplica := by
  refine oneReplica_getWebhookGatewayConfig.tryThen ?_
  intro cfg
  have hobjects : ((ensureWebhookGatewayObjects util environ ns (webhookGatewayTLS cfg)).tryThen
      fun _ => reconcileWebhookGatewayHPA util ns cfg).Asks OneReplica :=
    oneReplica_ensureWebhookGatewayObjects.tryThen fun _ => oneReplica_reconcileWebhookGatewayHPA
  cases cfg with
  | none => exact hobjects
  | some cfg =>
    exact oneReplica_reconcileWebhookGatewayConfigStatus.bind fun _ => hobjects

theorem webhookReq_objects (key : ObjectKey) (q : WebhookReq) (x : q.Reply)
    (h : WebhookReq.env w q x w') : w'.objects key = w.objects key := by
  cases q with
  | getWebhookGatewayConfig => rw [h.1]
  | updateConfigStatus => rw [show w' = w from h]

/-- The Deployment is the last of the five objects, and nothing after it writes Deployments. -/
theorem hasOneReplica_ensureWebhookGateway
    (h : Completes (GatewayWorld.env server) w (ensureWebhookGateway util quote environ ns) w'
      (.ok ())) : HasOneReplica ⟨ns, webhookGatewayDeploymentName⟩ w' := by
  obtain ⟨cfg, w₁, -, h⟩ := completes_tryThen.mp h
  have hrest : ∃ w₂, Completes (GatewayWorld.env server) w₂
      ((ensureWebhookGatewayObjects util environ ns (webhookGatewayTLS cfg)).tryThen fun _ =>
        reconcileWebhookGatewayHPA util ns cfg) w' (.ok ()) := by
    cases cfg with
    | none => exact ⟨w₁, h⟩
    | some cfg =>
      obtain ⟨_, w₂, -, h⟩ := completes_bind.mp h
      exact ⟨w₂, h⟩
  obtain ⟨w₂, h⟩ := hrest
  obtain ⟨_, w₃, hobjects, tr, hhpa⟩ := completes_tryThen.mp h
  obtain ⟨_, _, -, hobjects⟩ := completes_tryThen.mp hobjects
  obtain ⟨_, _, -, hobjects⟩ := completes_tryThen.mp hobjects
  obtain ⟨_, _, -, hobjects⟩ := completes_tryThen.mp hobjects
  obtain ⟨_, _, -, hobjects⟩ := completes_tryThen.mp hobjects
  have hone : HasOneReplica ⟨ns, webhookGatewayDeploymentName⟩ w₃ :=
    hasOneReplica_upsert mutateWebhookGatewayDeployment_replicas hobjects
  exact hone.exec (fun _ q x _ => webhookReq_objects _ q x) oneReplica_reconcileWebhookGatewayHPA
    hhpa

end Webhook

/-! ## A Kafka gateway -/

section Kafka

variable {util : ControllerUtil NoReply} {r : IntegrationReconciler} {obj : IntegrationObject}
variable {w w' : IntegrationCluster}

theorem oneReplica_recreateRoleBinding {label : String} {roleRef : RoleRef}
    {subjects : List Subject} {own : Metadata → Except ControlError Metadata} :
    (recreateRoleBinding label name roleRef subjects own).Asks OneReplica := by
  unfold recreateRoleBinding
  split
  · trivial
  · refine ⟨trivial, ?_⟩
    intro reply
    rcases reply with _ | _ | _ | _ | _ <;> trivial

theorem oneReplica_reconcileRoleBinding {label : String} {roleRef : RoleRef}
    {subjects : List Subject} {own : Metadata → Except ControlError Metadata} :
    (reconcileRoleBinding util label name roleRef subjects own).Asks OneReplica := by
  refine Program.Asks.bind ?_ ?_
  · exact util.asks _ _ _ _ trivial fun _ _ _ _ => ⟨trivial, trivial⟩
  · intro result
    split
    · trivial
    · refine ⟨trivial, ?_⟩
      intro reply
      rcases reply with _ | _ | _ | _ | _
      · exact oneReplica_recreateRoleBinding
      · exact oneReplica_recreateRoleBinding
      · trivial
      · trivial
      · trivial
    · trivial

theorem brokerDeployment_replicas {gateway : GatewayDeployment} {ports : List ContainerPort}
    (hone : gateway.replicas = 1) : (brokerDeployment gateway ports).spec.replicas = some 1 := by
  rw [brokerDeployment, hone]
  rfl

theorem oneReplica_reconcileBrokerGateway {label : String} {gateway : GatewayDeployment}
    {ports : List ContainerPort} (hone : gateway.replicas = 1) :
    (reconcileBrokerGateway util label gateway ports obj).Asks OneReplica := by
  refine Program.Asks.tryThen (oneReplica_upsert nofun) fun _ =>
    Program.Asks.tryThen (oneReplica_upsert nofun) fun _ =>
      oneReplica_reconcileRoleBinding.tryThen fun _ => ?_
  split
  · trivial
  · refine (asks_inContext (asks_upsert trivial ?_)).tryThen fun _ => trivial
    intro live
    exact ⟨brokerDeployment_replicas hone, brokerDeployment_replicas hone⟩

theorem hasOneReplica_reconcileBrokerGateway {label deploymentName : String}
    {gateway : GatewayDeployment} {ports : List ContainerPort} (hone : gateway.replicas = 1)
    (h : Completes (IntegrationCluster.env server) w
      (reconcileBrokerGateway util label gateway ports obj) w' (.ok deploymentName)) :
    HasOneReplica gateway.name w' := by
  obtain ⟨_, _, -, h⟩ := completes_tryThen.mp h
  obtain ⟨_, _, -, h⟩ := completes_tryThen.mp h
  obtain ⟨_, _, -, h⟩ := completes_tryThen.mp h
  split at h
  · simp at h
  · obtain ⟨_, _, hdeployment, h⟩ := completes_tryThen.mp h
    obtain ⟨rfl, -⟩ := completes_return.mp h
    refine hasOneReplica_upsert ?_ hdeployment
    intro live
    exact brokerDeployment_replicas hone

theorem oneReplica_reconcileKafkaGatewayService :
    (reconcileKafkaGatewayService util obj).Asks OneReplica := by
  unfold reconcileKafkaGatewayService
  simp only
  split
  · trivial
  · exact oneReplica_upsert nofun

theorem oneReplica_reconcileKafkaGateway : (reconcileKafkaGateway r obj).Asks OneReplica :=
  (oneReplica_reconcileBrokerGateway rfl).tryThen fun _ =>
    oneReplica_reconcileKafkaGatewayService.tryThen fun _ => trivial

theorem hasOneReplica_reconcileKafkaGateway {deploymentName : String}
    (h : Completes (IntegrationCluster.env server) w (reconcileKafkaGateway r obj) w'
      (.ok deploymentName)) :
    HasOneReplica ⟨obj.namespace_, "kubezap-kafka-gateway-" ++ obj.name⟩ w' := by
  obtain ⟨_, w₁, hbroker, h⟩ := completes_tryThen.mp h
  obtain ⟨_, _, ⟨tr, hservice⟩, h⟩ := completes_tryThen.mp h
  obtain ⟨rfl, -⟩ := completes_return.mp h
  have hone : HasOneReplica ⟨obj.namespace_, "kubezap-kafka-gateway-" ++ obj.name⟩ w₁ :=
    hasOneReplica_reconcileBrokerGateway rfl hbroker
  exact hone.exec (fun _ q _ _ => q.elim) oneReplica_reconcileKafkaGatewayService hservice

end Kafka

/-! ## Counts -/

/-- A live gateway of one replica keeps it, whatever else is corrected and wherever the run ends;
a run that succeeds resets every other count. -/
theorem gateway_replicas_kept_at_one (server : ApiServer) :
    (∀ util quote environ ns,
      KeptExactlyAtOne (GatewayWorld.env server) (ensureWebhookGateway util quote environ ns)
        ⟨ns, webhookGatewayDeploymentName⟩) ∧
    ∀ r obj, KeptExactlyAtOne (IntegrationCluster.env server) (reconcileKafkaGateway r obj)
      ⟨obj.namespace_, "kubezap-kafka-gateway-" ++ obj.name⟩ := by
  refine ⟨?_, ?_⟩
  · intro util quote environ ns
    exact keptExactlyAtOne (fun _ q x _ => webhookReq_objects _ q x)
      oneReplica_ensureWebhookGateway fun _ _ _ => hasOneReplica_ensureWebhookGateway
  · intro r obj
    exact keptExactlyAtOne (fun _ q _ _ => q.elim) oneReplica_reconcileKafkaGateway
      fun _ _ _ => hasOneReplica_reconcileKafkaGateway

def Deployment.scaledTo (deployment : Deployment) (replicas : Int) : Deployment :=
  { deployment with spec := { deployment.spec with replicas := some replicas } }

def emptyCluster : GatewayWorld where
  objects := fun _ => none
  rest := fun _ => none

def scaledWebhookCluster (replicas : Int) : GatewayWorld :=
  emptyCluster.store (gatewayKey .deployment "team")
    ((desiredWebhookGatewayDeployment (fun _ => "") "team" {}).scaledTo replicas)

def sampleReconciler : IntegrationReconciler := ⟨fun _ => "", .plain⟩

def streamIntegration : IntegrationObject where
  integration :=
    { name := ⟨"team", "stream"⟩
      type := .kafka
      kafka := some { bootstrapServers := ["kafka:9092"] } }
  uid := "8d3f"

def emptyIntegrations : IntegrationCluster where
  objects := fun _ => none
  rest := ()

def streamDeploymentKey : ObjectKey :=
  ⟨.deployment, ⟨streamIntegration.namespace_, "kubezap-kafka-gateway-" ++ streamIntegration.name⟩⟩

def scaledKafkaCluster (replicas : Int) : IntegrationCluster :=
  emptyIntegrations.store streamDeploymentKey
    ((brokerDeployment
      (desiredKafkaGatewayDeployment (fun _ => "") streamIntegration.integration) []).scaledTo
        replicas)

def WebhookReq.serve (w : GatewayWorld) : (q : WebhookReq) → Option (q.Reply × GatewayWorld)
  | .getWebhookGatewayConfig ns =>
    match w.rest ns with
    | some cfg => some (.ok cfg, w)
    | none => some (.error .notFound, w)
  | .updateConfigStatus .. => some (none, w)

theorem WebhookReq.serve_sound (w : GatewayWorld) (q : WebhookReq) (x : q.Reply)
    (w' : GatewayWorld) (h : WebhookReq.serve w q = some (x, w')) : WebhookReq.env w q x w' := by
  cases q with
  | getWebhookGatewayConfig ns =>
    cases hcfg : w.rest ns with
    | some | none =>
      simp only [WebhookReq.serve, hcfg] at h
      cases h
      exact ⟨rfl, hcfg⟩
  | updateConfigStatus cfg condition =>
    cases h
    rfl

def ensuredWebhook (w : GatewayWorld) : Option GatewayWorld :=
  (ensureWebhookGateway .plain id (fun _ => "") "team").simulateOk
    (ObjectWorld.serve ApiServer.plain.admitted WebhookReq.serve) w

def reconciledKafka (w : IntegrationCluster) : Option IntegrationCluster :=
  (reconcileKafkaGateway sampleReconciler streamIntegration).simulateOk
    (ObjectWorld.serve ApiServer.plain.admitted fun _ _ => none) w

theorem ensuredWebhook_completes {w w' : GatewayWorld} (h : ensuredWebhook w = some w') :
    Completes (GatewayWorld.env .plain) w (ensureWebhookGateway .plain id (fun _ => "") "team") w'
      (.ok ()) := by
  obtain ⟨_, hrun⟩ := Program.simulateOk_completes
    (ObjectWorld.serve_served WebhookReq.serve_sound) h
  exact hrun

theorem reconciledKafka_completes {w w' : IntegrationCluster} (h : reconciledKafka w = some w') :
    ∃ name, Completes (IntegrationCluster.env .plain) w
      (reconcileKafkaGateway sampleReconciler streamIntegration) w' (.ok name) :=
  Program.simulateOk_completes (ObjectWorld.serve_served fun _ q _ _ _ => q.elim) h

theorem replicas_one_stays : ∃ (w : GatewayWorld) (w' : IntegrationCluster),
    (∃ o, Completes (GatewayWorld.env .plain) (scaledWebhookCluster 1)
      (ensureWebhookGateway .plain id (fun _ => "") "team") w o) ∧
    HasOneReplica ⟨"team", webhookGatewayDeploymentName⟩ w ∧
    (∃ o, Completes (IntegrationCluster.env .plain) (scaledKafkaCluster 1)
      (reconcileKafkaGateway sampleReconciler streamIntegration) w' o) ∧
    HasOneReplica streamDeploymentKey.name w' := by
  have hwebhook : (ensuredWebhook (scaledWebhookCluster 1)).isSome = true := by decide +kernel
  have hkafka : (reconciledKafka (scaledKafkaCluster 1)).isSome = true := by decide +kernel
  obtain ⟨w, hw⟩ := Option.isSome_iff_exists.mp hwebhook
  obtain ⟨w', hw'⟩ := Option.isSome_iff_exists.mp hkafka
  have hrun := ensuredWebhook_completes hw
  obtain ⟨name, hrun'⟩ := reconciledKafka_completes hw'
  obtain ⟨tr, hexec⟩ := id hrun
  obtain ⟨tr', hexec'⟩ := id hrun'
  refine ⟨w, w', ⟨_, hrun⟩, ?_, ⟨_, hrun'⟩, ?_⟩
  · exact ((gateway_replicas_kept_at_one _).1 _ _ _ _ _ _
      ((desiredWebhookGatewayDeployment (fun _ => "") "team" {}).scaledTo 1)
      ObjectWorld.objects_store_self).1 rfl _ _ hexec
  · exact ((gateway_replicas_kept_at_one _).2 _ _ _ _
      ((brokerDeployment (desiredKafkaGatewayDeployment (fun _ => "")
        streamIntegration.integration) []).scaledTo 1)
      ObjectWorld.objects_store_self).1 rfl _ _ hexec'

/-- Five replicas of the webhook gateway and none of the Kafka gateway become one. -/
theorem replicas_reset : ∃ (w : GatewayWorld) (w' : IntegrationCluster),
    Completes (GatewayWorld.env .plain) (scaledWebhookCluster 5)
      (ensureWebhookGateway .plain id (fun _ => "") "team") w (.ok ()) ∧
    HasOneReplica ⟨"team", webhookGatewayDeploymentName⟩ w ∧
    (∃ name, Completes (IntegrationCluster.env .plain) (scaledKafkaCluster 0)
      (reconcileKafkaGateway sampleReconciler streamIntegration) w' (.ok name)) ∧
    HasOneReplica streamDeploymentKey.name w' := by
  have hwebhook : (ensuredWebhook (scaledWebhookCluster 5)).isSome = true := by decide +kernel
  have hkafka : (reconciledKafka (scaledKafkaCluster 0)).isSome = true := by decide +kernel
  obtain ⟨w, hw⟩ := Option.isSome_iff_exists.mp hwebhook
  obtain ⟨w', hw'⟩ := Option.isSome_iff_exists.mp hkafka
  have hrun := ensuredWebhook_completes hw
  obtain ⟨name, hrun'⟩ := reconciledKafka_completes hw'
  exact ⟨w, w', hrun, hasOneReplica_ensureWebhookGateway hrun, ⟨name, hrun'⟩,
    hasOneReplica_reconcileKafkaGateway hrun'⟩

end KubeZap.Workload
