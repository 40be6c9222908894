import KubeZap.Foundation.Scan
import Mathlib.Data.List.DropRight
import Mathlib.Data.Rat.Defs

/-! # Flow and FlowRun objects

The fields of the `v1alpha1` resources that the FlowRun controller reads or
writes, under their own names. A string whose values the API server restricts to
a fixed set is an inductive type; its empty value is a constructor of its own,
since the controller distinguishes it. Maps are lists of entries in one order of
iteration.
-/

namespace KubeZap

/-- Instants, in nanoseconds since the epoch. -/
abbrev Time := Int

/-- Go durations, in nanoseconds. -/
abbrev Duration := Int

def second : Duration := 1000000000

def minute : Duration := 60 * second

/-- The conversion to `int32`. -/
def wrapInt32 (n : Int) : Int := (n + 2147483648) % 4294967296 - 2147483648

theorem wrapInt32_of_le {n : Nat} (h : n ≤ 2147483647) : wrapInt32 n = n := by
  unfold wrapInt32
  omega

/-- `strings.HasPrefix(s, start)` -/
def startsWith (s start : String) : Bool := start.toList.isPrefixOf s.toList

/-- `strings.TrimPrefix(s, start)` -/
def trimStart (s start : String) : String :=
  if startsWith s start then String.ofList (s.toList.drop start.toList.length) else s

/-- `strings.HasSuffix(s, tail)` -/
def endsWith (s tail : String) : Bool := tail.toList.isSuffixOf s.toList

/-- `unicode.IsSpace` -/
def isSpace (c : Char) : Bool :=
  c == ' ' || (0x9 ≤ c.toNat && c.toNat ≤ 0xD) || c.toNat == 0x85 || c.toNat == 0xA0 ||
    c.toNat == 0x1680 || (0x2000 ≤ c.toNat && c.toNat ≤ 0x200A) || c.toNat == 0x2028 ||
    c.toNat == 0x2029 || c.toNat == 0x202F || c.toNat == 0x205F || c.toNat == 0x3000

/-- `strings.TrimSpace` -/
def trimSpace (s : String) : String :=
  String.ofList ((s.toList.dropWhile isSpace).rdropWhile isSpace)

/-- A Go map from strings, as the list of its entries in one iteration order. -/
abbrev StringMap (V : Type) := List (String × V)

/-- `m[key] = value` -/
def StringMap.set {V : Type} (m : StringMap V) (key : String) (value : V) : StringMap V :=
  (key, value) :: m.filter (fun e => e.1 != key)

@[simp] theorem StringMap.lookup_set_self {V : Type} (m : StringMap V) (key : String) (value : V) :
    (m.set key value).lookup key = some value := by
  simp [StringMap.set]

theorem StringMap.mem_set {V : Type} {m : StringMap V} {key : String} {value : V}
    {e : String × V} (h : e ∈ m.set key value) : e = (key, value) ∨ e ∈ m := by
  unfold StringMap.set at h
  rcases List.mem_cons.mp h with heq | h
  · exact .inl heq
  · exact .inr (List.mem_of_mem_filter h)

inductive FailurePolicy
  | unset
  | fail
  | continuing
deriving DecidableEq

inductive OnFailureAction
  | unset
  | fail
  | continuing
  | skip
deriving DecidableEq

/-- `StepAction.Type`. The API server admits the first four; the controller has
a branch of its own for anything else. -/
inductive StepActionType
  | http
  | transform
  | publish
  | wait
  | other (type : String)
deriving DecidableEq

inductive BackoffType
  | fixed
  | linear
  | exponential
deriving DecidableEq

structure RetryPolicy where
  maxRetries : Int
  backoffType : BackoffType := .exponential
  initialDelay : Option Duration := none
  maxDelay : Option Duration := none
  multiplier : String := ""
deriving DecidableEq

structure HTTPAction where
  url : String
  method : String := ""
  headers : StringMap String := []
  body : String := ""
  timeoutSeconds : Int := 0
  resultMappings : StringMap String := []
  integrationRef : Option String := none
deriving DecidableEq

structure TransformAction where
  mappings : StringMap String
deriving DecidableEq

structure PublishAction where
  integrationRef : String
  topic : String
  body : String := ""
  headers : StringMap String := []
deriving DecidableEq

structure WaitAction where
  duration : String
deriving DecidableEq

structure StepAction where
  type : StepActionType
  http : Option HTTPAction := none
  transform : Option TransformAction := none
  publish : Option PublishAction := none
  wait : Option WaitAction := none
deriving DecidableEq

structure WhenExpression where
  expression : String
deriving DecidableEq

structure FlowStep where
  name : String
  runAfter : List String := []
  when : List WhenExpression := []
  action : StepAction
  retryPolicy : Option RetryPolicy := none
  timeout : Option Duration := none
  onFailure : OnFailureAction := .unset
deriving DecidableEq

structure ParamDeclaration where
  name : String
  required : Bool := false
  default : String := ""

structure FlowSpec where
  timeout : Option Duration := none
  failurePolicy : FailurePolicy := .unset
  params : List ParamDeclaration := []
  steps : List FlowStep

structure Flow where
  spec : FlowSpec

structure ParamValue where
  name : String
  value : String
deriving DecidableEq

inductive TriggerType
  | webhook
  | cron
  | kafka
  | amqp
  | nats
  | resource
  | plugin
deriving DecidableEq

def TriggerType.text : TriggerType → String
  | .webhook => "webhook"
  | .cron => "cron"
  | .kafka => "kafka"
  | .amqp => "amqp"
  | .nats => "nats"
  | .resource => "resource"
  | .plugin => "plugin"

structure TriggerReference where
  name : String
  type : TriggerType
deriving DecidableEq

structure TriggerData where
  eventType : String := ""
  resourceName : String := ""
  resourceNamespace : String := ""
  resourceAPIVersion : String := ""
  resourceKind : String := ""
  source : String := ""
  method : String := ""
  path : String := ""
  headers : StringMap String := []
  topic : String := ""
  partition : Int := 0
  offset : Int := 0
  key : String := ""
  keyEncoding : String := ""
  scheduledTime : Option Time := none
  body : String := ""
  bodyTruncated : Bool := false
  bodyEncoding : String := ""
  contentType : String := ""
deriving DecidableEq

structure FlowRunSpec where
  flowRef : String
  params : List ParamValue := []
  triggerRef : Option TriggerReference := none
  triggerData : Option TriggerData := none
  ttlAfterFinished : Option Duration := none
deriving DecidableEq

structure ResultValue where
  name : String
  value : String
deriving DecidableEq

inductive StepPhase
  | empty
  | pending
  | running
  | succeeded
  | failed
  | skipped
  | waiting
deriving DecidableEq

structure StepRunStatus where
  name : String
  phase : StepPhase := .empty
  startTime : Option Time := none
  completionTime : Option Time := none
  attempts : Int := 0
  message : String := ""
  results : List ResultValue := []
  durationMillis : Option Int := none
  resumeAfter : Option Time := none
deriving DecidableEq

inductive FlowRunPhase
  | empty
  | pending
  | running
  | succeeded
  | failed
  | cancelled
deriving DecidableEq

def FlowRunPhase.text : FlowRunPhase → String
  | .empty => ""
  | .pending => "Pending"
  | .running => "Running"
  | .succeeded => "Succeeded"
  | .failed => "Failed"
  | .cancelled => "Cancelled"

/-- A `metav1.Condition` whose status is true, the only one the controller sets. -/
structure Condition where
  type : String
  reason : String
  message : String
  lastTransitionTime : Time
deriving DecidableEq

structure FlowRunStatus where
  observedGeneration : Int := 0
  phase : FlowRunPhase := .empty
  conditions : List Condition := []
  startTime : Option Time := none
  completionTime : Option Time := none
  steps : List StepRunStatus := []
  message : String := ""
  durationMillis : Option Int := none
deriving DecidableEq

@[ext] structure NamespacedName where
  namespace_ : String
  name : String
deriving DecidableEq

/-- The name of an object that the API server admits has no slash. -/
def NamespacedName.Admitted (name : NamespacedName) : Prop := '/' ∉ name.namespace_.toList

instance (name : NamespacedName) : Decidable name.Admitted :=
  inferInstanceAs (Decidable (_ ∉ _))

theorem NamespacedName.eq_of_slash {name name' : NamespacedName} (h : name.Admitted)
    (h' : name'.Admitted)
    (hkey : name.namespace_ ++ "/" ++ name.name = name'.namespace_ ++ "/" ++ name'.name) :
    name = name' := by
  have hlist : name.namespace_.toList ++ '/' :: name.name.toList =
      name'.namespace_.toList ++ '/' :: name'.name.toList := by
    simpa using congrArg String.toList hkey
  obtain ⟨hns, hname⟩ := Foundation.Scan.append_cons_inj h h' hlist
  exact NamespacedName.ext (String.toList_injective hns) (String.toList_injective hname)

structure ObjectMeta where
  name : NamespacedName
  uid : String := ""
  resourceVersion : Nat := 0
  generation : Int := 1
  labels : StringMap String := []
  annotations : StringMap String := []
  finalizers : List String := []
  deletionTimestamp : Option Time := none
deriving DecidableEq

structure FlowRun where
  metadata : ObjectMeta
  spec : FlowRunSpec
  status : FlowRunStatus := {}
deriving DecidableEq

structure FlowRunGCPolicy where
  maxSucceeded : Option Int := none
  maxFailed : Option Int := none
  ttlAfterSucceeded : Option Duration := none
  ttlAfterFailed : Option Duration := none
deriving DecidableEq

def FlowRunPhase.terminal : FlowRunPhase → Bool
  | .succeeded | .failed | .cancelled => true
  | .empty | .pending | .running => false

def StepPhase.terminal : StepPhase → Bool
  | .succeeded | .failed | .skipped => true
  | .empty | .pending | .running | .waiting => false

def StepPhase.unstarted : StepPhase → Bool
  | .empty | .pending => true
  | .running | .succeeded | .failed | .skipped | .waiting => false

theorem StepPhase.unstarted_not_terminal {p : StepPhase} (h : p.unstarted = true) :
    p.terminal = false := by
  cases p <;> simp_all [StepPhase.unstarted, StepPhase.terminal]

/-! ## What the API server stores

`metav1.Time` is written with whole seconds, so an object that went through the
server has its instants cut to the second. -/

def wholeSeconds (t : Time) : Time := t - t % second

theorem wholeSeconds_eq (t : Time) : wholeSeconds t = second * (t / second) := by
  rw [wholeSeconds, Int.emod_def, Int.sub_sub_self]

@[simp] theorem wholeSeconds_wholeSeconds (t : Time) :
    wholeSeconds (wholeSeconds t) = wholeSeconds t := by
  rw [wholeSeconds_eq (wholeSeconds t), wholeSeconds_eq t, Int.mul_ediv_cancel_left _ (by decide)]

theorem wholeSeconds_le_wholeSeconds {t t' : Time} (h : t ≤ t') :
    wholeSeconds t ≤ wholeSeconds t' := by
  rw [wholeSeconds_eq, wholeSeconds_eq]
  exact Int.mul_le_mul_of_nonneg_left (Int.ediv_le_ediv (by decide) h) (by decide)

def StepRunStatus.encode (s : StepRunStatus) : StepRunStatus :=
  { s with
    startTime := s.startTime.map wholeSeconds
    completionTime := s.completionTime.map wholeSeconds
    resumeAfter := s.resumeAfter.map wholeSeconds }

def Condition.encode (c : Condition) : Condition :=
  { c with lastTransitionTime := wholeSeconds c.lastTransitionTime }

def FlowRunStatus.encode (s : FlowRunStatus) : FlowRunStatus :=
  { s with
    conditions := s.conditions.map Condition.encode
    startTime := s.startTime.map wholeSeconds
    completionTime := s.completionTime.map wholeSeconds
    steps := s.steps.map StepRunStatus.encode }

@[simp] theorem StepRunStatus.encode_name (s : StepRunStatus) : s.encode.name = s.name := rfl
@[simp] theorem StepRunStatus.encode_phase (s : StepRunStatus) : s.encode.phase = s.phase := rfl
@[simp] theorem FlowRunStatus.encode_phase (s : FlowRunStatus) : s.encode.phase = s.phase := rfl
@[simp] theorem FlowRunStatus.encode_steps (s : FlowRunStatus) :
    s.encode.steps = s.steps.map StepRunStatus.encode := rfl

/-- What the controller sends to the HTTP executor. -/
structure ExecuteRequest where
  method : String
  url : String
  headers : StringMap String := []
  body : String := ""
  timeoutSeconds : Int := 0
  tlsSkipVerify : Bool := false
  tlsCABundle : String := ""
  tlsClientCert : String := ""
  tlsClientKey : String := ""
deriving DecidableEq

end KubeZap
