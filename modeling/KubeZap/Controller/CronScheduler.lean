import KubeZap.Api.Runtime
import KubeZap.Api.Triggered
import KubeZap.Foundation.Program
import Mathlib.Logic.Function.Basic

/-! # Cron scheduler

`cron_scheduler.go`: the table of cron entries, one for each Trigger, and the job that
an entry runs. The job is a program over its calls to the API; the library starts each
fire of it in a goroutine of its own.
-/

namespace KubeZap

open Foundation Function

/-- The status part of a JSON merge patch: the fields it writes. -/
structure StatusPatch where
  lastTriggeredTime : Option (Option Time) := none
  lastResult : Option String := none
  currentInvocationCount : Option Int := none

/-- `client.MergeFrom(base)`: the fields whose JSON form is not that of `base`. -/
def mergeFrom (base status : TriggerStatus) : StatusPatch where
  lastTriggeredTime :=
    if status.lastTriggeredTime.map wholeSeconds = base.lastTriggeredTime.map wholeSeconds then none
    else some (status.lastTriggeredTime.map wholeSeconds)
  lastResult := if status.lastResult = base.lastResult then none else some status.lastResult
  currentInvocationCount :=
    if status.currentInvocationCount = base.currentInvocationCount then none
    else some status.currentInvocationCount

def TriggerStatus.patched (status : TriggerStatus) (patch : StatusPatch) : TriggerStatus where
  lastTriggeredTime := patch.lastTriggeredTime.getD status.lastTriggeredTime
  lastResult := patch.lastResult.getD status.lastResult
  currentInvocationCount := patch.currentInvocationCount.getD status.currentInvocationCount

inductive CronReq
  | getTrigger (name : NamespacedName)
  | patchStatus (name : NamespacedName) (patch : StatusPatch)
  | create (flowRun : FlowRun)

/-- A patch that was stored is answered with the object it gave. -/
@[reducible] def CronReq.Reply : CronReq → Type
  | .getTrigger _ => Except ReadError Trigger
  | .patchStatus .. => Except String Trigger
  | .create _ => CreateReply

abbrev CronProgram := Program CronReq CronReq.Reply

abbrev CronReq.send (q : CronReq) : CronProgram q.Reply := Program.request q

def CooldownPolicy.windowDuration (policy : CooldownPolicy) : Duration :=
  policy.window.getD (60 * second)

/-- Step 2: the status to go on with, or `none` where the fire ends here. -/
def checkCooldown (name : NamespacedName) (now : Time) (trigger : Trigger) :
    CronProgram (Option TriggerStatus) :=
  let status := trigger.status
  match trigger.spec.cooldown with
  | none => return some status
  | some policy =>
    if policy.maxInvocations ≤ 0 then return some status else
    match status.lastTriggeredTime with
    | some windowStart =>
      if now < windowStart + policy.windowDuration then
        if policy.maxInvocations ≤ status.currentInvocationCount then do
          -- A failure of this patch is only logged.
          let _ ← CronReq.send (.patchStatus name
            (mergeFrom status { status with lastResult := "RateLimited" }))
          return none
        else do
          match ← CronReq.send (.patchStatus name (mergeFrom status
            { status with
              currentInvocationCount := wrapInt32 (status.currentInvocationCount + 1) })) with
          | .error _ => return none
          | .ok trigger => return some { trigger.status with lastTriggeredTime := some now }
      else do
        match ← CronReq.send (.patchStatus name (mergeFrom status
          { status with currentInvocationCount := 1, lastTriggeredTime := some now })) with
        | .error _ => return none
        | .ok trigger => return some { trigger.status with lastTriggeredTime := some now }
    | none => do
        match ← CronReq.send (.patchStatus name (mergeFrom status
          { status with lastTriggeredTime := some now, currentInvocationCount := 1 })) with
        | .error _ => return none
        | .ok trigger => return some trigger.status

/-- `metav1.Time.Unix` -/
def unixSeconds (t : Time) : Int := t / second

def cronFlowRun (name : NamespacedName) (flowRef : String) (now : Time) : FlowRun :=
  triggeredFlowRun ⟨name.namespace_, name.name ++ "-" ++ toString (unixSeconds now)⟩ name.name .cron
    flowRef { scheduledTime := some now }

/-- `cron_fire`: one fire of the job of a Trigger, at `now`. -/
def cronFire (name : NamespacedName) (flowRef : String) (now : Time) : CronProgram Unit := do
  match ← CronReq.send (.getTrigger name) with
  | .error _ => return ()
  | .ok trigger =>
    match ← checkCooldown name now trigger with
    | none => return ()
    | some status =>
      match ← CronReq.send (.create (cronFlowRun name flowRef now)) with
      | .alreadyExists | .failed _ => return ()
      | .created =>
        let _ ← CronReq.send (.patchStatus name
          (mergeFrom status
            { status with lastTriggeredTime := some now, lastResult := "Success" }))
        return ()

structure CronJob where
  schedule : String
  name : NamespacedName
  flowRef : String

/-- The key of a Trigger in the tables of the controller: `<namespace>/<name>`. -/
def NamespacedName.slashed (name : NamespacedName) : String := name.namespace_ ++ "/" ++ name.name

/-- The jobs of the cron library by their ids, and the id of each Trigger's entry. -/
structure CronScheduler where
  jobs : Nat → Option CronJob
  nextID : Nat
  entries : String → Option Nat

namespace CronScheduler

def new : CronScheduler := ⟨fun _ => none, 1, fun _ => none⟩

def deregister (s : CronScheduler) (key : String) : CronScheduler :=
  match s.entries key with
  | none => s
  | some id =>
    { s with
      jobs := update s.jobs id none
      entries := update s.entries key none }

def scheduleText (cron : CronTrigger) : String :=
  if cron.timezone = "" then cron.schedule else "CRON_TZ=" ++ cron.timezone ++ " " ++ cron.schedule

/-- `parse` is the parser of the cron library: an error text, or none. -/
def register (lib : GoLib) (parse : String → Option String) (s : CronScheduler)
    (trigger : Trigger) : CronScheduler × Option String :=
  let name := trigger.key
  match trigger.spec.cron with
  | none => (s, some ("trigger " ++ name.slashed ++ " has no cron spec"))
  | some cron =>
    let schedule := scheduleText cron
    let s := s.deregister name.slashed
    match parse schedule with
    | some err =>
      (s, some ("invalid cron schedule " ++ lib.quote schedule ++ " for trigger " ++
        name.slashed ++ ": " ++ err))
    | none =>
      ({ jobs := update s.jobs s.nextID (some ⟨schedule, name, trigger.spec.flowRef⟩)
         nextID := s.nextID + 1
         entries := update s.entries name.slashed (some s.nextID) }, none)

end CronScheduler

end KubeZap
