import KubeZap.Controller.IntegrationGateways
import KubeZap.Foundation.Objects

/-! # The objects that the controllers manage

Kubernetes objects with the fields that `gateway_deployment.go` and
`integration_controller.go` set or read, and the API server that stores them. An object is
told from the others by its kind and its name.
-/

namespace KubeZap.Workload

open Foundation

structure OwnerReference where
  apiVersion : String
  kind : String
  name : String
  uid : String
  controller : Bool
  blockOwnerDeletion : Bool
deriving DecidableEq

structure Metadata where
  labels : StringMap String := []
  ownerReferences : List OwnerReference := []
deriving DecidableEq

def apiGroupAutomation : String := "automation.kubezap.io"

def apiGroupRBAC : String := "rbac.authorization.k8s.io"

structure ServiceAccount where
  metadata : Metadata := {}
deriving DecidableEq

structure PolicyRule where
  apiGroups : List String
  resources : List String
  verbs : List String
deriving DecidableEq

structure Role where
  metadata : Metadata := {}
  rules : List PolicyRule
deriving DecidableEq

structure RoleRef where
  apiGroup : String
  kind : String
  name : String
deriving DecidableEq

structure Subject where
  kind : String
  name : String
  namespace_ : String
deriving DecidableEq

structure RoleBinding where
  metadata : Metadata := {}
  roleRef : RoleRef
  subjects : List Subject
deriving DecidableEq

inductive Transport
  | tcp
deriving DecidableEq

structure ServicePort where
  name : String
  protocol : Transport
  port : Int
  targetPort : Int
deriving DecidableEq

structure ServiceSpec where
  selector : StringMap String
  ports : List ServicePort
  /-- Given by the API server. -/
  clusterIP : String := ""
deriving DecidableEq

structure Service where
  metadata : Metadata := {}
  spec : ServiceSpec
deriving DecidableEq

def EnvVar.toContainer (var : EnvVar) : ContainerEnv := { name := var.name, value := var.value }

structure ContainerPort where
  name : String
  containerPort : Int
  protocol : Transport
deriving DecidableEq

structure VolumeMount where
  name : String
  mountPath : String
  readOnly : Bool
deriving DecidableEq

structure SecretVolume where
  name : String
  secretName : String
  defaultMode : Option Int := none
deriving DecidableEq

inductive SeccompProfile
  | runtimeDefault
deriving DecidableEq

structure PodSecurityContext where
  runAsNonRoot : Bool
  seccompProfile : Option SeccompProfile := none
deriving DecidableEq

structure SecurityContext where
  runAsNonRoot : Bool
  readOnlyRootFilesystem : Bool
  allowPrivilegeEscalation : Bool
  dropCapabilities : List String := []
  seccompProfile : Option SeccompProfile := none
deriving DecidableEq

inductive URIScheme
  | http
  | https
deriving DecidableEq

/-- A probe by `httpGet`; what is not set is left to the API server. -/
structure Probe where
  path : String
  port : Int
  scheme : Option URIScheme := none
  initialDelaySeconds : Int
  periodSeconds : Int
  failureThreshold : Option Int := none
deriving DecidableEq

structure ResourceList where
  cpu : String
  memory : String
deriving DecidableEq

structure ResourceRequirements where
  requests : ResourceList
  limits : ResourceList
deriving DecidableEq

inductive PullPolicy
  | ifNotPresent
deriving DecidableEq

structure Container where
  name : String
  image : String
  imagePullPolicy : Option PullPolicy := none
  args : List String := []
  env : List ContainerEnv
  ports : List ContainerPort := []
  volumeMounts : List VolumeMount := []
  securityContext : SecurityContext
  resources : Option ResourceRequirements := none
  livenessProbe : Option Probe := none
  readinessProbe : Option Probe := none
deriving DecidableEq

structure PodSpec where
  serviceAccountName : String
  securityContext : PodSecurityContext
  volumes : List SecretVolume := []
  containers : List Container
deriving DecidableEq

structure DeploymentSpec where
  replicas : Option Int
  selector : StringMap String
  templateLabels : StringMap String
  podSpec : PodSpec
deriving DecidableEq

structure Deployment where
  metadata : Metadata := {}
  spec : DeploymentSpec
  availableReplicas : Int := 0
deriving DecidableEq

structure ScaleTargetRef where
  apiVersion : String
  kind : String
  name : String
deriving DecidableEq

structure HorizontalPodAutoscaler where
  metadata : Metadata := {}
  scaleTargetRef : ScaleTargetRef
  minReplicas : Option Int
  maxReplicas : Int
  cpuUtilization : Int
deriving DecidableEq

inductive IntOrString
  | int (n : Int)
  | string (s : String)
deriving DecidableEq

structure PodDisruptionBudget where
  metadata : Metadata := {}
  minAvailable : IntOrString
  selector : StringMap String
deriving DecidableEq

structure Secret where
  metadata : Metadata := {}
  type : String
  data : StringMap String
deriving DecidableEq

inductive ResourceKind
  | serviceAccount
  | role
  | roleBinding
  | service
  | deployment
  | horizontalPodAutoscaler
  | podDisruptionBudget
  | secret
deriving DecidableEq

@[reducible] def ResourceKind.Object : ResourceKind → Type
  | .serviceAccount => ServiceAccount
  | .role => Role
  | .roleBinding => RoleBinding
  | .service => Service
  | .deployment => Deployment
  | .horizontalPodAutoscaler => HorizontalPodAutoscaler
  | .podDisruptionBudget => PodDisruptionBudget
  | .secret => Secret

structure ObjectKey where
  kind : ResourceKind
  name : NamespacedName
deriving DecidableEq

abbrev ObjectKey.Object (key : ObjectKey) : Type := key.kind.Object

instance : (key : ObjectKey) → DecidableEq key.Object
  | ⟨.serviceAccount, _⟩ => inferInstanceAs (DecidableEq ServiceAccount)
  | ⟨.role, _⟩ => inferInstanceAs (DecidableEq Role)
  | ⟨.roleBinding, _⟩ => inferInstanceAs (DecidableEq RoleBinding)
  | ⟨.service, _⟩ => inferInstanceAs (DecidableEq Service)
  | ⟨.deployment, _⟩ => inferInstanceAs (DecidableEq Deployment)
  | ⟨.horizontalPodAutoscaler, _⟩ => inferInstanceAs (DecidableEq HorizontalPodAutoscaler)
  | ⟨.podDisruptionBudget, _⟩ => inferInstanceAs (DecidableEq PodDisruptionBudget)
  | ⟨.secret, _⟩ => inferInstanceAs (DecidableEq Secret)

/-- What the API server makes of a spec that it is sent: `deploymentSpec` and `serviceSpec` fill in
what was not set. Replicas that are set stay. -/
structure ApiServer where
  deploymentSpec : DeploymentSpec → DeploymentSpec
  serviceSpec : Option ServiceSpec → ServiceSpec → ServiceSpec
  replicas_kept : ∀ spec n, spec.replicas = some n → (deploymentSpec spec).replicas = some n

/-- What is stored for an object that is sent. The status is not the sender's to set. -/
def ApiServer.admitted (server : ApiServer) : (key : ObjectKey) → Option key.Object → key.Object →
    key.Object
  | ⟨.deployment, _⟩, old, sent =>
    { sent with
      spec := server.deploymentSpec sent.spec
      availableReplicas := (old.map Deployment.availableReplicas).getD 0 }
  | ⟨.service, _⟩, old, sent =>
    { sent with spec := server.serviceSpec (old.map Service.spec) sent.spec }
  | ⟨.serviceAccount, _⟩, _, sent => sent
  | ⟨.role, _⟩, _, sent => sent
  | ⟨.roleBinding, _⟩, _, sent => sent
  | ⟨.horizontalPodAutoscaler, _⟩, _, sent => sent
  | ⟨.podDisruptionBudget, _⟩, _, sent => sent
  | ⟨.secret, _⟩, _, sent => sent

def ApiServer.plain : ApiServer where
  deploymentSpec := fun spec => spec
  serviceSpec := fun _ spec => spec
  replicas_kept := fun _ _ h => h

inductive ControlError
  | api (err : ObjectError)
  | text (err : String)
  /-- `errRoleRefChanged` -/
  | roleRefChanged
  | wrap (context : String) (err : ControlError)

def ControlError.message : ControlError → String
  | .api .notFound => "not found"
  | .api .alreadyExists => "already exists"
  | .api .conflict => "the object has been modified"
  | .api (.other err) => err
  | .text err => err
  | .roleRefChanged => "rolebinding RoleRef has changed and must be recreated"
  | .wrap context err => context ++ err.message

section Calls

variable {Extra : Type} {ExtraReply : Extra → Type}

/-- Programs that manage objects, with requests of their own besides. -/
abbrev ControlProgram (ExtraReply : Extra → Type) := ObjectProgram ObjectKey.Object ExtraReply

def inContext {α : Type} (context : String) (p : ControlProgram ExtraReply (Except ControlError α)) :
    ControlProgram ExtraReply (Except ControlError α) := do
  return (← p).mapError (.wrap context)

/-- What the controllers use of `controllerutil`. `CreateOrUpdate` reads the object and sends
nothing but what the change has made of an object; where it returns no error, such an object is
stored. -/
structure ControllerUtil (ExtraReply : Extra → Type) where
  setControllerReference : OwnerReference → Metadata → Except ControlError Metadata
  createOrUpdate : (key : ObjectKey) → key.Object →
    (Bool → key.Object → Except ControlError key.Object) →
    ControlProgram ExtraReply (Except ControlError Unit)
  asks : ∀ (key : ObjectKey) fresh mutate (ok : ObjectReq ObjectKey ObjectKey.Object Extra → Prop),
    ok (.get key) → (∀ live obj sent, mutate live obj = .ok sent →
      ok (.create key sent) ∧ ok (.update key sent)) → (createOrUpdate key fresh mutate).Asks ok
  written : ∀ {W : Type}
    (admitted : (key : ObjectKey) → Option key.Object → key.Object → key.Object)
    (other : Env (ObjectWorld ObjectKey.Object W) ExtraReply) w w' (key : ObjectKey) fresh mutate,
    Completes (ObjectServed admitted other) w (createOrUpdate key fresh mutate) w' (.ok ()) →
    w'.Written admitted mutate

def ControllerUtil.plain : ControllerUtil ExtraReply where
  setControllerReference ref metadata := .ok { metadata with ownerReferences := [ref] }
  createOrUpdate key fresh mutate := Foundation.createOrUpdate ControlError.api key fresh mutate
  asks _ _ _ _ := asks_createOrUpdate
  written _ _ _ _ _ _ _ := written_createOrUpdate

/-- `CreateOrUpdate` with a change that cannot fail. -/
def upsert (util : ControllerUtil ExtraReply) (key : ObjectKey) (desired : key.Object)
    (change : key.Object → key.Object) : ControlProgram ExtraReply (Except ControlError Unit) :=
  util.createOrUpdate key desired fun _ obj => .ok (change obj)

variable {ok : ObjectReq ObjectKey ObjectKey.Object Extra → Prop} {W α : Type}
  {env : Env W (@ObjectReply _ ObjectKey.Object _ ExtraReply)} {w w' : W} {context : String}
  {p : ControlProgram ExtraReply (Except ControlError α)} {a : α}

theorem asks_inContext (hp : p.Asks ok) : (inContext context p).Asks ok :=
  hp.bind fun _ => trivial

theorem completes_inContext (h : Completes env w (inContext context p) w' (.ok a)) :
    Completes env w p w' (.ok a) := by
  obtain ⟨result, w₁, hp, h⟩ := completes_bind.mp h
  obtain ⟨rfl, heq⟩ := completes_return.mp h
  cases result with
  | error err => cases heq
  | ok b =>
    cases heq
    exact hp

variable {util : ControllerUtil ExtraReply} {key : ObjectKey} {desired : key.Object}
  {change : key.Object → key.Object}

theorem asks_upsert (hget : ok (.get key))
    (hsent : ∀ obj, ok (.create key (change obj)) ∧ ok (.update key (change obj))) :
    (upsert util key desired change).Asks ok := by
  refine util.asks _ _ _ _ hget ?_
  rintro live obj sent ⟨⟩
  exact hsent obj

end Calls

end KubeZap.Workload
