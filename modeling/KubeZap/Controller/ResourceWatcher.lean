import KubeZap.Api.Runtime
import KubeZap.Api.Triggered
import KubeZap.Controller.CronScheduler
import KubeZap.Foundation.Informer
import Mathlib.Data.List.DropRight

/-! # Resource watcher

`resource_watcher.go`: the watchers of resource Triggers, the filter of what their
informers report, and the FlowRun that an event of a watched object gives. `runWatcher`
waits for its informer until it has synced or is stopped, so its loop of attempts makes
one pass.
-/

namespace KubeZap

open Foundation Function

structure Unstructured where
  name : NamespacedName
  uid : String
  resourceVersion : String
  labels : StringMap String := []
  object : BodyValue := .null

inductive WatchEventType
  | added
  | modified
  | deleted
deriving DecidableEq

def WatchEventType.text : WatchEventType → String
  | .added => "ADDED"
  | .modified => "MODIFIED"
  | .deleted => "DELETED"

def WatchEventType.lower : WatchEventType → String
  | .added => "added"
  | .modified => "modified"
  | .deleted => "deleted"

/-- `metav1.LabelSelectorAsSelector`: what the selector matches, unless it is invalid. -/
abbrev AsSelector := LabelSelector → Option (StringMap String → Bool)

variable (lib : GoLib) (asSelector : AsSelector)

/-- Membership in `allowedEventSet(events)` -/
def allowedEvent (events : List String) (event : String) : Bool :=
  if events = [] then event == "create" else events.any fun e => lib.toLower e == event

/-- `unstructured.NestedFieldNoCopy`, without its error -/
def nestedField : List String → BodyValue → Option BodyValue
  | [], value => some value
  | field :: path, .object fields => (fields.lookup field).bind (nestedField path)
  | _ :: _, _ => none

/-- `fmt.Sprintf("%v", …)` of a field that may be missing -/
def fieldText : Option BodyValue → String
  | none => "<nil>"
  | some value => lib.sprintV value

def fieldsChanged (oldObj newObj : Unstructured) (fields : List String) : Bool :=
  fields.any fun field =>
    let path := (trimStart field ".").splitOn "."
    fieldText lib (nestedField path oldObj.object) != fieldText lib (nestedField path newObj.object)

/-- The handler functions of the informer: the object and the event type that
`handleEvent` is called with. -/
def eventHandler (resource : ResourceTrigger) :
    Notification Unstructured → Option (Unstructured × WatchEventType)
  | .add obj => if allowedEvent lib resource.events "create" then some (obj, .added) else none
  | .update oldObj newObj =>
    if !allowedEvent lib resource.events "update" then none
    else if resource.watchFields ≠ [] ∧ !fieldsChanged lib oldObj newObj resource.watchFields then
      none
    else some (newObj, .modified)
  | .delete obj => if allowedEvent lib resource.events "delete" then some (obj, .deleted) else none

/-- An invalid selector does not restrict anything. -/
def selectorMatches (selector : Option LabelSelector) (u : Unstructured) : Bool :=
  match selector.bind asSelector with
  | none => true
  | some accepts => accepts u.labels

def trimDashes (l : List Char) : List Char := (l.dropWhile (· == '-')).rdropWhile (· == '-')

/-- Every character is an ASCII one after the replacement, so the cut at 32 bytes is one
at 32 characters. -/
def sanitizeName (s : String) : String :=
  let allowed (c : Char) : Bool :=
    (decide ('a' ≤ c) && decide (c ≤ 'z')) || (decide ('0' ≤ c) && decide (c ≤ '9')) || c == '-'
  let result := (lib.toLower s).toList.map fun c => if allowed c then c else '-'
  String.ofList (trimDashes (result.take 32))

/-- What handling an event reads from outside: the clock when the cooldown is checked,
when it is recorded and when the FlowRun is named, and the random suffix. -/
structure EventInputs where
  checkedAt : Time
  recordedAt : Time
  namedAt : Time
  random : String

def resourceFlowRun (trigger : Trigger) (resource : ResourceTrigger) (u : Unstructured)
    (eventType : WatchEventType) (inputs : EventInputs) : FlowRun :=
  let flowRunName := trigger.key.name ++ "-" ++ sanitizeName lib u.name.name ++ "-" ++
    eventType.lower ++ "-" ++ toString (unixSeconds inputs.namedAt) ++ "-" ++ inputs.random
  triggeredFlowRun ⟨trigger.key.namespace_, flowRunName⟩ trigger.key.name .resource
    trigger.spec.flowRef
    { eventType := eventType.text
      resourceName := u.name.name
      resourceNamespace := u.name.namespace_
      resourceAPIVersion := resource.apiVersion
      resourceKind := resource.kind
      body := (lib.marshal u.object).getD "" }

abbrev Tracker := String → Option Time

def cooldownKey (trigger : NamespacedName) (u : NamespacedName) (eventType : WatchEventType) :
    String :=
  trigger.namespace_ ++ "/" ++ trigger.name ++ "/" ++ u.namespace_ ++ "/" ++ u.name ++ "/" ++
    eventType.lower

/-- The cooldown of an event: `none` if it is suppressed, else the table that records it. -/
def passCooldown (cooldown : Option Duration) (key : String) (inputs : EventInputs)
    (tracker : Tracker) : Option Tracker :=
  match cooldown with
  | none => some tracker
  | some c =>
    if c ≤ 0 then some tracker else
    match tracker key with
    | some last =>
      if inputs.checkedAt - last < c then none
      else some (update tracker key (some inputs.recordedAt))
    | none => some (update tracker key (some inputs.recordedAt))

/-- The FlowRun that the handler asks for, if any, and the table of cooldowns after it. -/
def handleEvent (trigger : Trigger) (resource : ResourceTrigger) (u : Unstructured)
    (eventType : WatchEventType) (inputs : EventInputs)
    (tracker : Tracker) : Option FlowRun × Tracker :=
  if !selectorMatches asSelector resource.labelSelector u then (none, tracker) else
  match passCooldown resource.cooldown (cooldownKey trigger.key u.name eventType) inputs tracker with
  | none => (none, tracker)
  | some tracker =>
    if trigger.spec.flowRef = "" then (none, tracker)
    else (some (resourceFlowRun lib trigger resource u eventType inputs), tracker)

theorem passCooldown_some {c : Duration} (hc : 0 < c) {key : String} {inputs : EventInputs}
    {tracker tracker' : Tracker} (h : passCooldown (some c) key inputs tracker = some tracker') :
    tracker' = update tracker key (some inputs.recordedAt) ∧
      ∀ last, tracker key = some last → c ≤ inputs.checkedAt - last := by
  simp only [passCooldown, if_neg (Int.not_le.mpr hc)] at h
  cases hlast : tracker key with
  | none =>
    simp only [hlast, Option.some.injEq] at h
    exact ⟨h.symm, nofun⟩
  | some last =>
    simp only [hlast] at h
    split at h
    · cases h
    next hold =>
      cases h
      refine ⟨rfl, ?_⟩
      rintro last' ⟨⟩
      exact Int.not_lt.mp hold

theorem handleEvent_tracker (trigger : Trigger) (resource : ResourceTrigger) (u : Unstructured)
    (eventType : WatchEventType) (inputs : EventInputs) (tracker : Tracker) :
    (handleEvent lib asSelector trigger resource u eventType inputs tracker).2 = tracker ∨
      (handleEvent lib asSelector trigger resource u eventType inputs tracker).2 =
        update tracker (cooldownKey trigger.key u.name eventType)
          (some inputs.recordedAt) := by
  unfold handleEvent passCooldown
  split
  · exact .inl rfl
  · split
    · exact .inl rfl
    next tracker' hpass =>
      have htracker : tracker' = tracker ∨ tracker' = update tracker
          (cooldownKey trigger.key u.name eventType) (some inputs.recordedAt) := by
        split at hpass
        · exact .inl (Option.some.inj hpass).symm
        · split_ifs at hpass
          · exact .inl (Option.some.inj hpass).symm
          · split at hpass
            · split_ifs at hpass
              exact .inr (Option.some.inj hpass).symm
            · exact .inr (Option.some.inj hpass).symm
      split <;> exact htracker

theorem handleEvent_flowRun {lib : GoLib} {asSelector : AsSelector} {trigger : Trigger}
    {resource : ResourceTrigger} {u : Unstructured} {eventType : WatchEventType}
    {inputs : EventInputs} {tracker : Tracker} {flowRun : FlowRun}
    (h : (handleEvent lib asSelector trigger resource u eventType inputs tracker).1 =
      some flowRun) :
    selectorMatches asSelector resource.labelSelector u = true ∧
      flowRun = resourceFlowRun lib trigger resource u eventType inputs ∧
      passCooldown resource.cooldown (cooldownKey trigger.key u.name eventType) inputs tracker =
        some (handleEvent lib asSelector trigger resource u eventType inputs tracker).2 := by
  unfold handleEvent at h ⊢
  cases hmatch : selectorMatches asSelector resource.labelSelector u with
  | false => simp [hmatch] at h
  | true =>
    cases hpass : passCooldown resource.cooldown (cooldownKey trigger.key u.name eventType)
        inputs tracker with
    | none => simp [hmatch, hpass] at h
    | some tracker' =>
      by_cases href : trigger.spec.flowRef = ""
      · simp [hmatch, hpass, href] at h
      · simp only [hmatch, hpass, href, Bool.not_true, Bool.false_eq_true, if_false,
          Option.some.injEq] at h
        exact ⟨rfl, h.symm, by simp [href]⟩

/-- The watchers by the key of their Trigger, each with the object it was given. -/
structure ResourceWatcher where
  dynamicClient : Bool
  /-- The manager has called `Start`. -/
  started : Bool
  watchers : String → Option Trigger
  cooldownTracker : Tracker

def cooldownEvictionWindow : Duration := 60 * minute

namespace ResourceWatcher

variable (rw : ResourceWatcher)

def deregister (key : String) : ResourceWatcher :=
  { rw with
    watchers := update rw.watchers key none
    cooldownTracker := fun k => if startsWith k (key ++ "/") then none else rw.cooldownTracker k }

def register (trigger : Trigger) : ResourceWatcher :=
  let key := trigger.key.slashed
  let rw := rw.deregister key
  if trigger.spec.resource.isNone then rw
  else if !rw.dynamicClient then rw
  else if !rw.started then rw
  else { rw with watchers := update rw.watchers key (some trigger) }

def evict (now : Time) (tracker : Tracker) : Tracker := fun key =>
  match tracker key with
  | some t => if t < now - cooldownEvictionWindow then none else some t
  | none => none

theorem deregister_tracker (key k : String) :
    (rw.deregister key).cooldownTracker k = rw.cooldownTracker k ∨
      (rw.deregister key).cooldownTracker k = none := by
  simp only [deregister]
  split
  · exact .inr rfl
  · exact .inl rfl

theorem evict_eq (now : Time) (tracker : Tracker) (k : String) :
    evict now tracker k = tracker k ∨ evict now tracker k = none := by
  simp only [evict]
  split
  next last hlast =>
    split
    · exact .inr rfl
    · exact .inl hlast.symm
  · exact .inr rfl

end ResourceWatcher

end KubeZap
