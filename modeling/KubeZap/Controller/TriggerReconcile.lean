import KubeZap.Controller.ResourceWatcher
import KubeZap.Foundation.Program

/-! # Reconciling a Trigger

`trigger_controller.go`: one reconcile as a program over its calls. What the calls for
the webhook gateway and for the conditions of gateway and plugin Triggers do is left to
their answers; the scheduler and the watcher are those of the controller.
-/

namespace KubeZap

open Foundation

def cronTriggerFinalizer : String := "cron.kubezap.io/scheduler-cleanup"

def resourceTriggerFinalizer : String := "resource.kubezap.io/watcher-cleanup"

def pluginIntegrationRecheckInterval : Duration := 30 * second

/-- A condition of a Trigger, without the time of its last transition. -/
structure TriggerCondition where
  type : String
  status : Bool
  reason : String
  message : String

/-- What a reconcile writes into the status: `lastResult`, unless it leaves it alone, and
the conditions it sets. -/
structure TriggerReport where
  lastResult : Option String
  conditions : List TriggerCondition

inductive TriggerReq
  | get (name : NamespacedName)
  | update (trigger : Trigger)
  | cronRegister (trigger : Trigger)
  | cronDeregister (key : String)
  | watcherRegister (trigger : Trigger)
  | watcherDeregister (key : String)
  | ensureWebhookGateway (namespace_ : String)
  | cleanupWebhookGatewayIfUnused (namespace_ : String)
  | syncCredentialResolutionCondition (trigger : Trigger)
  | syncPluginIntegrationRefCondition (trigger : Trigger)
  | patchStatus (name : NamespacedName) (report : TriggerReport)

/-- A successful update is answered with the object it gave; the check of a plugin's
Integration with what is wrong with it, or nothing. -/
@[reducible] def TriggerReq.Reply : TriggerReq → Type
  | .get _ => Except ReadError Trigger
  | .update _ => Except String Trigger
  | .cronRegister _ | .ensureWebhookGateway _ | .cleanupWebhookGatewayIfUnused _
  | .syncCredentialResolutionCondition _ | .patchStatus .. => Option String
  | .cronDeregister _ | .watcherRegister _ | .watcherDeregister _ => Unit
  | .syncPluginIntegrationRefCondition _ => Except String String

abbrev TriggerProgram := Program TriggerReq TriggerReq.Reply

abbrev TriggerReq.send (q : TriggerReq) : TriggerProgram q.Reply := Program.request q

def Trigger.withFinalizers (trg : Trigger) (finalizers : List String) : Trigger :=
  { trg with metadata := { trg.metadata with finalizers := finalizers } }

def ensureFinalizer (trg : Trigger) (finalizer : String) : TriggerProgram (Except String Trigger) :=
  if finalizer ∈ trg.metadata.finalizers then return .ok trg
  else TriggerReq.send (.update (trg.withFinalizers (trg.metadata.finalizers ++ [finalizer])))

def reconcileDeletion (name : NamespacedName) (trg : Trigger) :
    TriggerProgram (Except String (Option Duration)) := do
  TriggerReq.send (.cronDeregister name.slashed)
  TriggerReq.send (.watcherDeregister name.slashed)
  let finalizers := trg.metadata.finalizers
  let remaining := (finalizers.filter (· ≠ cronTriggerFinalizer)).filter
    (· ≠ resourceTriggerFinalizer)
  let update : TriggerProgram (Except String Trigger) :=
    if cronTriggerFinalizer ∈ finalizers ∨ resourceTriggerFinalizer ∈ finalizers then
      TriggerReq.send (.update (trg.withFinalizers remaining))
    else return .ok trg
  update.tryThen fun trg => do
    if trg.spec.type = .webhook then
      match ← TriggerReq.send (.cleanupWebhookGatewayIfUnused trg.key.namespace_) with
      | some err => return .error ("cleaning up webhook gateway: " ++ err)
      | none => return .ok none
    else return .ok none

def reconcileCron (name : NamespacedName) (trg : Trigger) :
    TriggerProgram (Except String Trigger) :=
  if trg.spec.type ≠ .cron then return .ok trg
  else if trg.spec.enabled = true ∧ trg.spec.cron.isSome then
    (ensureFinalizer trg cronTriggerFinalizer).tryThen fun trg => do
      match ← TriggerReq.send (.cronRegister trg) with
      | some err => return .error err
      | none => return .ok trg
  else do
    TriggerReq.send (.cronDeregister name.slashed)
    return .ok trg

def reconcileWebhook (trg : Trigger) : TriggerProgram (Except String Unit) :=
  if trg.spec.type ≠ .webhook then return .ok ()
  else if trg.spec.enabled then do
    let err ← TriggerReq.send (.ensureWebhookGateway trg.key.namespace_)
    return orFail "reconciling webhook gateway deployment: " err
  else do
    let err ← TriggerReq.send (.cleanupWebhookGatewayIfUnused trg.key.namespace_)
    return orFail "cleaning up webhook gateway: " err

def reconcileResource (name : NamespacedName) (trg : Trigger) :
    TriggerProgram (Except String Unit) :=
  if trg.spec.type ≠ .resource then return .ok ()
  else if trg.spec.enabled = true ∧ trg.spec.resource.isSome then
    (ensureFinalizer trg resourceTriggerFinalizer).tryThen fun trg => do
      TriggerReq.send (.watcherRegister trg)
      return .ok ()
  else do
    TriggerReq.send (.watcherDeregister name.slashed)
    return .ok ()

/-- The status of a Trigger whose plugin Integration is wrong as `pluginRefErr` says. -/
def triggerReport (trg : Trigger) (pluginRefErr : String) : TriggerReport :=
  let condition (type : String) : TriggerCondition :=
    if pluginRefErr ≠ "" then ⟨type, false, "PluginIntegrationInvalid", pluginRefErr⟩
    else if trg.spec.enabled then ⟨type, true, "Enabled", "Trigger is accepted and active"⟩
    else ⟨type, false, "Disabled", "Trigger is disabled"⟩
  { lastResult := if trg.spec.enabled then some "Accepted" else none
    conditions := [condition "Accepted", condition "Ready"] }

def reconcileStatus (name : NamespacedName) : TriggerProgram (Except String (Option Duration)) := do
  match ← TriggerReq.send (.get name) with
  | .error (.notFound _) => return .ok none
  | .error (.other msg) => return .error msg
  | .ok trg =>
    let credentials : TriggerProgram (Except String Unit) :=
      if trg.spec.type = .kafka ∨ trg.spec.type = .amqp ∨ trg.spec.type = .nats then do
        let err ← TriggerReq.send (.syncCredentialResolutionCondition trg)
        return orFail "syncing credential-resolution condition: " err
      else return .ok ()
    let plugin : TriggerProgram (Except String String) :=
      if trg.spec.type = .plugin ∧ trg.spec.enabled = true then
        TriggerReq.send (.syncPluginIntegrationRefCondition trg)
      else return .ok ""
    credentials.tryThen fun _ => plugin.tryThen fun pluginRefErr => do
      match ← TriggerReq.send (.patchStatus name (triggerReport trg pluginRefErr)) with
      | some err => return .error ("updating Trigger status: " ++ err)
      | none =>
        if pluginRefErr ≠ "" then return .ok (some pluginIntegrationRecheckInterval)
        else return .ok none

/-- The result is the time after which to look again. -/
def reconcileTrigger (name : NamespacedName) :
    TriggerProgram (Except String (Option Duration)) := do
  match ← TriggerReq.send (.get name) with
  | .error (.notFound _) => return .ok none
  | .error (.other msg) => return .error msg
  | .ok trg =>
    if trg.metadata.deletionTimestamp.isSome then reconcileDeletion name trg
    else
      (reconcileCron name trg).tryThen fun trg =>
        (reconcileWebhook trg).tryThen fun _ =>
          (reconcileResource name trg).tryThen fun _ => reconcileStatus name

/-- The Triggers of the cluster, and the two sources that the controller runs itself. -/
structure TriggerWorld where
  triggers : NamespacedName → Option Trigger
  scheduler : CronScheduler
  rw : ResourceWatcher

/-- An object that is being deleted is gone when its last finalizer is. -/
def Trigger.kept (trg : Trigger) : Option Trigger :=
  if trg.metadata.deletionTimestamp.isSome ∧ trg.metadata.finalizers = [] then none else some trg

def TriggerWorld.put (w : TriggerWorld) (trg : Trigger) : TriggerWorld :=
  { w with triggers := Function.update w.triggers trg.key trg.kept }

def TriggerWorld.report (w : TriggerWorld) (name : NamespacedName) (report : TriggerReport) :
    TriggerWorld :=
  { w with
    triggers := Function.update w.triggers name ((w.triggers name).map fun trg =>
      { trg with
        status := { trg.status with
          lastResult := report.lastResult.getD trg.status.lastResult } }) }

/-- Reads are fresh and nobody else writes; any call to the API may fail. -/
def TriggerReq.env (lib : GoLib) (parse : String → Option String) :
    Env TriggerWorld TriggerReq.Reply
  | w, .get name, x, w' => w' = w ∧
      match x with
      | .ok trg => w.triggers name = some trg
      | .error (.notFound _) => w.triggers name = none
      | .error (.other _) => True
  | w, .update trg, x, w' =>
    match x with
    | .ok stored => stored = trg ∧ w' = w.put trg
    | .error _ => w' = w
  | w, .cronRegister trg, x, w' =>
    w' = { w with scheduler := (w.scheduler.register lib parse trg).1 } ∧
      x = (w.scheduler.register lib parse trg).2
  | w, .cronDeregister key, _, w' => w' = { w with scheduler := w.scheduler.deregister key }
  | w, .watcherRegister trg, _, w' => w' = { w with rw := w.rw.register trg }
  | w, .watcherDeregister key, _, w' => w' = { w with rw := w.rw.deregister key }
  | w, .patchStatus name report, x, w' =>
    match x with
    | none => w' = w.report name report
    | some _ => w' = w
  | w, .ensureWebhookGateway _, _, w' => w' = w
  | w, .cleanupWebhookGatewayIfUnused _, _, w' => w' = w
  | w, .syncCredentialResolutionCondition _, _, w' => w' = w
  | w, .syncPluginIntegrationRefCondition _, _, w' => w' = w

end KubeZap
