import KubeZap.Workload.Objects

/-! # The gateway of a Kafka Integration

The programs of `integration_controller.go` that write the objects of a gateway, down to the
Deployment that KEDA scales and its Service.
-/

namespace KubeZap.Workload

open Foundation

structure IntegrationObject where
  integration : Integration
  uid : String

def IntegrationObject.namespace_ (obj : IntegrationObject) : String :=
  obj.integration.name.namespace_

def IntegrationObject.name (obj : IntegrationObject) : String := obj.integration.name.name

/-- What `SetControllerReference` writes for an owner that is an Integration. -/
def IntegrationObject.ownerReference (obj : IntegrationObject) : OwnerReference where
  apiVersion := apiGroupAutomation ++ "/v1alpha1"
  kind := "Integration"
  name := obj.name
  uid := obj.uid
  controller := true
  blockOwnerDeletion := true

/-- Nothing is asked for but objects. -/
@[reducible] def NoReply : Empty → Type := fun _ => Unit

abbrev IntegrationProgram := ControlProgram NoReply

structure IntegrationReconciler where
  environ : Environ
  util : ControllerUtil NoReply

/-! ## RBAC -/

/-- The RoleBinding is created for the second time; `own` makes the Integration its owner, where it
has one. -/
def recreateRoleBinding (label : String) (name : NamespacedName) (desiredRoleRef : RoleRef)
    (desiredSubjects : List Subject) (own : Metadata → Except ControlError Metadata) :
    IntegrationProgram (Except ControlError Unit) :=
  match own {} with
  | .error err => return .error (.wrap "setting owner reference on recreated RoleBinding: " err)
  | .ok metadata => do
      match ← createObject ⟨.roleBinding, name⟩
          { metadata := metadata, roleRef := desiredRoleRef, subjects := desiredSubjects } with
      | none | some .alreadyExists => return .ok ()
      | some err => return .error (.wrap ("recreating " ++ label ++ " RoleBinding: ") (.api err))

/-- What is written to a RoleBinding, unless its RoleRef is another one. -/
def mutateRoleBinding (desiredRoleRef : RoleRef) (desiredSubjects : List Subject)
    (own : Metadata → Except ControlError Metadata) (live : Bool) (rb : RoleBinding) :
    Except ControlError RoleBinding :=
  if live ∧ rb.roleRef ≠ desiredRoleRef then .error .roleRefChanged
  else (own rb.metadata).map (RoleBinding.mk · desiredRoleRef desiredSubjects)

/-- A RoleBinding whose RoleRef differs is deleted and created anew. -/
def reconcileRoleBinding (util : ControllerUtil NoReply) (label : String) (name : NamespacedName)
    (desiredRoleRef : RoleRef) (desiredSubjects : List Subject)
    (own : Metadata → Except ControlError Metadata) :
    IntegrationProgram (Except ControlError Unit) := do
  let key : ObjectKey := ⟨.roleBinding, name⟩
  match ← util.createOrUpdate key { roleRef := ⟨"", "", ""⟩, subjects := [] }
      (mutateRoleBinding desiredRoleRef desiredSubjects own) with
  | .ok () => return .ok ()
  | .error .roleRefChanged =>
    match ← deleteObject key with
    | none | some .notFound =>
      recreateRoleBinding label name desiredRoleRef desiredSubjects own
    | some err =>
      return .error (.wrap ("deleting stale " ++ label ++ " RoleBinding: ") (.api err))
  | .error err => return .error (.wrap ("upserting " ++ label ++ " RoleBinding: ") err)

/-! ## Broker gateways -/

def brokerGatewayRules : List PolicyRule :=
  [⟨[apiGroupAutomation], ["triggers"], ["get", "list", "watch"]⟩,
    ⟨[apiGroupAutomation], ["integrations"], ["get", "list", "watch"]⟩,
    ⟨[apiGroupAutomation], ["flowruns"], ["create"]⟩,
    ⟨[""], ["secrets"], ["get", "list", "watch"]⟩,
    ⟨[""], ["events"], ["create"]⟩]

def brokerDeployment (gateway : GatewayDeployment) (ports : List ContainerPort) :
    Deployment where
  metadata := { labels := gateway.labels }
  spec :=
    { replicas := some gateway.replicas
      selector := gateway.labels
      templateLabels := gateway.labels
      podSpec :=
        { serviceAccountName := gateway.serviceAccountName
          securityContext := { runAsNonRoot := true }
          containers :=
            [{ name := gateway.container
               image := gateway.image
               imagePullPolicy := some .ifNotPresent
               args := gateway.args
               env := gateway.env.map EnvVar.toContainer
               ports := ports
               securityContext :=
                 { runAsNonRoot := true
                   readOnlyRootFilesystem := true
                   allowPrivilegeEscalation := false }
               resources := some { requests := ⟨"50m", "64Mi"⟩, limits := ⟨"200m", "128Mi"⟩ }
               livenessProbe := some
                 { path := "/healthz"
                   port := 8090
                   initialDelaySeconds := 5
                   periodSeconds := 10
                   failureThreshold := some 3 }
               readinessProbe := some
                 { path := "/healthz"
                   port := 8090
                   initialDelaySeconds := 3
                   periodSeconds := 5
                   failureThreshold := some 3 } }] } }

/-- The steps that the three gateways share. ServiceAccount, Role and RoleBinding are those of all
gateways of the namespace, and have no owner. -/
def reconcileBrokerGateway (util : ControllerUtil NoReply) (label : String)
    (gateway : GatewayDeployment) (ports : List ContainerPort) (obj : IntegrationObject) :
    IntegrationProgram (Except ControlError String) :=
  let shared : NamespacedName := ⟨obj.namespace_, sharedGatewayServiceAccountName⟩
  let desired := brokerDeployment gateway ports
  (inContext ("upserting " ++ label ++ " ServiceAccount: ") <|
    upsert util ⟨.serviceAccount, shared⟩ {} fun sa => sa).tryThen fun _ =>
  (inContext ("upserting " ++ label ++ " Role: ") <|
    upsert util ⟨.role, shared⟩ { rules := [] } fun role =>
      { (role : Role) with rules := brokerGatewayRules }).tryThen fun _ =>
  (reconcileRoleBinding util label shared ⟨apiGroupRBAC, "Role", sharedGatewayServiceAccountName⟩
    [⟨"ServiceAccount", sharedGatewayServiceAccountName, obj.namespace_⟩] .ok).tryThen fun _ =>
  match util.setControllerReference obj.ownerReference desired.metadata with
  | .error err =>
    return .error (.wrap ("setting owner reference on " ++ label ++ " Deployment: ") err)
  | .ok metadata =>
    (inContext ("failed to create/update " ++ label ++ " deployment: ") <|
      upsert util ⟨.deployment, gateway.name⟩ { desired with metadata := metadata } fun live =>
        { (live : Deployment) with spec := desired.spec }).tryThen fun _ =>
    return .ok gateway.name.name

def kafkaGatewayMetricsPort : Int := 9090

def desiredKafkaGatewayService (integration : Integration) : Service :=
  let selector : StringMap String :=
    [("app", "kubezap-kafka-gateway-" ++ integration.name.name),
      ("kubezap.io/component", "kafka-gateway")]
  { metadata := { labels := selector }
    spec :=
      { selector := selector
        ports := [⟨"metrics", .tcp, kafkaGatewayMetricsPort, kafkaGatewayMetricsPort⟩] } }

def reconcileKafkaGatewayService (util : ControllerUtil NoReply) (obj : IntegrationObject) :
    IntegrationProgram (Except ControlError Unit) :=
  let desired := desiredKafkaGatewayService obj.integration
  match util.setControllerReference obj.ownerReference desired.metadata with
  | .error err => return .error (.wrap "setting owner reference on kafka gateway Service: " err)
  | .ok metadata =>
    inContext "failed to create/update kafka gateway service: " <|
      upsert util ⟨.service, ⟨obj.namespace_, "kubezap-kafka-gateway-" ++ obj.name⟩⟩
        { desired with metadata := metadata } fun live =>
          { (live : Service) with
            spec := { (live : Service).spec with
              selector := desired.spec.selector, ports := desired.spec.ports } }

def reconcileKafkaGateway (r : IntegrationReconciler) (obj : IntegrationObject) :
    IntegrationProgram (Except ControlError String) :=
  (reconcileBrokerGateway r.util "kafka gateway"
    (desiredKafkaGatewayDeployment r.environ obj.integration)
    [⟨"metrics", kafkaGatewayMetricsPort, .tcp⟩] obj).tryThen fun deploymentName =>
  (reconcileKafkaGatewayService r.util obj).tryThen fun _ => return .ok deploymentName

/-! ## The cluster -/

abbrev IntegrationCluster := ObjectWorld ObjectKey.Object Unit

def IntegrationCluster.env (server : ApiServer) :
    Env IntegrationCluster (@ObjectReply _ ObjectKey.Object _ NoReply) :=
  ObjectServed server.admitted fun _ q _ _ => q.elim

end KubeZap.Workload
