import KubeZap.Api.Trigger
import KubeZap.Foundation.Program
import KubeZap.Foundation.ReverseIndex

/-! # Trigger watchers of the broker gateways

`watcher.go` of the kafka, amqp and nats gateways: the handlers that the Trigger,
Secret and Integration informers call, as programs over single operations. The three
watchers are one program over what a broker brings with it: the part of a Trigger it
watches, the part of an Integration it connects with, its credentials, and how it
starts a subscription. An operation is what the source does in one access to a map
or an index, with the local work up to the next one; a started subscription is known
by its place in the order of starts.
-/

namespace KubeZap.Gateway

open Foundation Function

/-! ## Reading credentials -/

structure WatcherLib where
  /-- `fmt.Sprintf("%q", s)` -/
  quote : String → String
  /-- `AppendCertsFromPEM` finds a certificate. -/
  parsesPEM : String → Bool
  sha256Hex : String → String
deriving Inhabited

inductive ReadReq
  | getIntegration (name : NamespacedName)
  | getSecret (name : NamespacedName)

@[reducible] def ReadReq.Reply : ReadReq → Type
  | .getIntegration _ => Except String Integration
  | .getSecret _ => Except String (StringMap String)

abbrev Sources := (q : ReadReq) → q.Reply

abbrev ReadProgram := Program ReadReq ReadReq.Reply

abbrev ReadReq.send (q : ReadReq) : ReadProgram q.Reply := Program.request q

def readSecretKey (lib : WatcherLib) (namespace_ : String) (ref : KeySelector) :
    ReadProgram (Except String String) := do
  match ← ReadReq.send (.getSecret ⟨namespace_, ref.name⟩) with
  | .error err => return .error ("get secret " ++ namespace_ ++ "/" ++ ref.name ++ ": " ++ err)
  | .ok data =>
    match data.lookup ref.key with
    | none =>
      return .error ("secret " ++ namespace_ ++ "/" ++ ref.name ++ " does not contain key " ++
        lib.quote ref.key)
    | some val => return .ok val

/-- The credentials of an Integration: their values, the Secrets they were read from, and
the bytes written to the hash so far. -/
structure Resolved (V : Type) where
  values : V
  secretRefs : List NamespacedName := []
  hashed : String := ""

/-- A value that was read counts for the fingerprint, and its Secret is watched. -/
def Resolved.add {V : Type} (creds : Resolved V) (values : V) (namespace_ : String)
    (read : List (KeySelector × String)) : Resolved V where
  values := values
  secretRefs := creds.secretRefs ++ read.map fun e => ⟨namespace_, e.1.name⟩
  hashed := creds.hashed ++ String.join (read.map fun e => e.2)

def Resolved.fingerprint {V : Type} (lib : WatcherLib) (creds : Resolved V) : String :=
  lib.sha256Hex creds.hashed

/-! ## Operations -/

/-- A started subscription. What the watcher remembers of it is compared later; what it
runs with is not looked at again. -/
structure Subscription (R C : Type) where
  id : Nat
  key : NamespacedName
  remembered : R
  config : C
deriving DecidableEq

inductive IndexName
  | secrets
  | integrations
deriving DecidableEq

inductive Req (R C : Type)
  | setTrigger (key : NamespacedName) (trigger : Trigger)
  | deleteTrigger (key : NamespacedName)
  | getTrigger (key : NamespacedName)
  | updateIndex (index : IndexName) (key : NamespacedName) (refs : List NamespacedName)
  | removeIndex (index : IndexName) (key : NamespacedName)
  | objectsFor (index : IndexName) (ref : NamespacedName)
  | read (q : ReadReq)
  | swapCredentialFailed (key : NamespacedName) (failed : Bool)
  | deleteCredentialFailed (key : NamespacedName)
  | event (key : NamespacedName) (reason message : String)
  /-- Whatever a broker does before the subscription is stored. -/
  | connect (config : C)
  | loadSubscription (key : NamespacedName)
  | storeSubscription (key : NamespacedName) (remembered : R) (config : C)
  /-- `LoadAndDelete`, and the cancellation of what it returned -/
  | stopSubscription (key : NamespacedName)
  /-- The cancellation of a subscription, and `Delete` of its key -/
  | discard (sub : Subscription R C)

@[reducible] def Req.Reply {R C : Type} : Req R C → Type
  | .getTrigger _ => Option Trigger
  | .objectsFor .. => List NamespacedName
  | .read q => q.Reply
  | .swapCredentialFailed .. => Option Bool
  | .connect _ => Option String
  | .loadSubscription _ => Option (Subscription R C)
  | .storeSubscription .. => Subscription R C
  | .setTrigger .. | .deleteTrigger _ | .updateIndex .. | .removeIndex .. | .deleteCredentialFailed _
  | .event .. | .stopSubscription _ | .discard _ => Unit

abbrev Req.send {R C : Type} (q : Req R C) : Program (Req R C) Req.Reply q.Reply :=
  Program.request q

/-! ## Brokers -/

/-- What the watcher of one broker adds to the common handlers. -/
structure Broker where
  lib : WatcherLib
  name : String
  Watch : Type
  Spec : Type
  Values : Type
  Remembered : Type
  Config : Type
  decEqRemembered : DecidableEq Remembered
  decEqConfig : DecidableEq Config
  /-- Nothing where the Trigger is of another type, lacks the section or is disabled. -/
  watch : Trigger → Option Watch
  integrationName : Watch → String
  spec : Integration → Option Spec
  resolveCredentials : String → Spec → ReadProgram (Resolved Values × Option String)
  unchanged : Remembered → Watch → String → Bool
  startSubscription : Trigger → Watch → Spec → Resolved Values →
    Program (Req Remembered Config) Req.Reply (Except String Unit)

instance (B : Broker) : DecidableEq B.Remembered := B.decEqRemembered

instance (B : Broker) : DecidableEq B.Config := B.decEqConfig

abbrev WatchProgram (B : Broker) := Program (Req B.Remembered B.Config) Req.Reply

def credentialResolutionFailedReason : String := "CredentialResolutionFailed"
def credentialResolutionSucceededReason : String := "CredentialResolutionSucceeded"

section Handlers

variable (B : Broker)

variable (trigger : Trigger) (watch : B.Watch)

def recordCredentialFailure (integrationName err : String) :
    WatchProgram B Unit := do
  let _ ← Req.send (.swapCredentialFailed trigger.key true)
  Req.send (.event trigger.key credentialResolutionFailedReason
    ("failed to resolve " ++ B.name ++ " credentials for integration " ++
      B.lib.quote integrationName ++ ": " ++ err))

def recordCredentialSuccess (integrationName : String) :
    WatchProgram B Unit := do
  let prev ← Req.send (.swapCredentialFailed trigger.key false)
  if prev = some true then
    Req.send (.event trigger.key credentialResolutionSucceededReason
      ("resolved " ++ B.name ++ " credentials for integration " ++ B.lib.quote integrationName))
  else return ()

def startLogged (spec : B.Spec) (creds : Resolved B.Values) : WatchProgram B Unit := do
  let _ ← B.startSubscription trigger watch spec creds
  return ()

/-- The last part of `reconcileTrigger`: keep the running subscription, or replace it. -/
def applySubscription (spec : B.Spec) (creds : Resolved B.Values) : WatchProgram B Unit := do
  match ← Req.send (.loadSubscription trigger.key) with
  | none => startLogged B trigger watch spec creds
  | some sub =>
    if B.unchanged sub.remembered watch (creds.fingerprint B.lib) then return ()
    else do
      Req.send (.stopSubscription trigger.key)
      startLogged B trigger watch spec creds

/-- `reconcileTrigger` once the Integration was read. -/
def reconcileSpec (spec : B.Spec) : WatchProgram B Unit := do
  let (creds, credErr) ←
    (B.resolveCredentials trigger.key.namespace_ spec).lift Req.read (fun _ x => x)
  Req.send (.updateIndex .secrets trigger.key creds.secretRefs)
  match credErr with
  | some err => recordCredentialFailure B trigger (B.integrationName watch) err
  | none => do
      recordCredentialSuccess B trigger (B.integrationName watch)
      applySubscription B trigger watch spec creds

def Broker.integrationKey : NamespacedName :=
  ⟨trigger.key.namespace_, B.integrationName watch⟩

def reconcileTrigger : WatchProgram B Unit := do
  Req.send (.setTrigger trigger.key trigger)
  match B.watch trigger with
  | none => do
      Req.send (.removeIndex .secrets trigger.key)
      Req.send (.removeIndex .integrations trigger.key)
      Req.send (.stopSubscription trigger.key)
  | some watch => do
      Req.send (.updateIndex .integrations trigger.key [B.integrationKey trigger watch])
      match ← Req.send (.read (.getIntegration (B.integrationKey trigger watch))) with
      | .error err => recordCredentialFailure B trigger (B.integrationName watch) err
      | .ok integration =>
        match B.spec integration with
        | none =>
          recordCredentialFailure B trigger (B.integrationName watch)
            ("integration has no " ++ B.name ++ " spec")
        | some spec => reconcileSpec B trigger watch spec

def onTriggerDelete : WatchProgram B Unit := do
  Req.send (.deleteTrigger trigger.key)
  Req.send (.removeIndex .secrets trigger.key)
  Req.send (.removeIndex .integrations trigger.key)
  Req.send (.deleteCredentialFailed trigger.key)
  Req.send (.stopSubscription trigger.key)

/-- The Triggers that depend on an object, in the order the index gave them. -/
def reprocess : List NamespacedName → WatchProgram B Unit
  | [] => return ()
  | triggerKey :: affected => do
      match ← Req.send (.getTrigger triggerKey) with
      | none => reprocess affected
      | some trigger => do
          reconcileTrigger B trigger
          reprocess affected

/-- `handleSecretChange` and `handleIntegrationChange` -/
def handleChange (index : IndexName) (ref : NamespacedName) : WatchProgram B Unit := do
  let affected ← Req.send (.objectsFor index ref)
  reprocess B affected

def handleSecretChange (secretKey : NamespacedName) : WatchProgram B Unit :=
  handleChange B .secrets secretKey

def handleIntegrationChange (integrationKey : NamespacedName) : WatchProgram B Unit :=
  handleChange B .integrations integrationKey

end Handlers

/-! ## The process they run in -/

/-- The shared state of the handlers, and the subscriptions that were started and not
cancelled. -/
structure Watcher (B : Broker) where
  triggers : NamespacedName → Option Trigger
  index : IndexName → ReverseIndex NamespacedName NamespacedName
  credentialFailed : NamespacedName → Option Bool
  events : List (NamespacedName × String × String)
  subscriptions : NamespacedName → Option (Subscription B.Remembered B.Config)
  live : List (Subscription B.Remembered B.Config)
  next : Nat

namespace Watcher

variable {B : Broker}

def start (B : Broker) : Watcher B :=
  ⟨fun _ => none, fun _ => .empty, fun _ => none, [], fun _ => none, [], 0⟩

def setIndex (w : Watcher B) (index : IndexName) (key : NamespacedName)
    (refs : List NamespacedName) : Watcher B :=
  { w with index := update w.index index ((w.index index).update key refs) }

def fresh (w : Watcher B) (key : NamespacedName) (remembered : B.Remembered) (config : B.Config) :
    Subscription B.Remembered B.Config :=
  ⟨w.next, key, remembered, config⟩

def cancel (w : Watcher B) (sub : Subscription B.Remembered B.Config) : Watcher B :=
  { w with live := w.live.filter (· ≠ sub) }

def setSubscription (w : Watcher B) (key : NamespacedName)
    (sub : Option (Subscription B.Remembered B.Config)) : Watcher B :=
  { w with subscriptions := update w.subscriptions key sub }

def store (w : Watcher B) (sub : Subscription B.Remembered B.Config) : Watcher B :=
  { w with
    subscriptions := update w.subscriptions sub.key (some sub)
    live := sub :: w.live
    next := w.next + 1 }

def stop (w : Watcher B) (key : NamespacedName) : Watcher B :=
  match w.subscriptions key with
  | none => w
  | some sub => (w.cancel sub).setSubscription key none

end Watcher

/-- Every operation is a function of the state and of what the reads answer, except that
an index gives its objects in any order and that a connection may fail. -/
def Req.env {B : Broker} (sources : Sources) : Env (Watcher B) (@Req.Reply B.Remembered B.Config)
  | w, .setTrigger key trigger, _, w' =>
    w' = { w with triggers := update w.triggers key (some trigger) }
  | w, .deleteTrigger key, _, w' => w' = { w with triggers := update w.triggers key none }
  | w, .getTrigger key, x, w' => x = w.triggers key ∧ w' = w
  | w, .updateIndex index key refs, _, w' => w' = w.setIndex index key refs
  | w, .removeIndex index key, _, w' => w' = w.setIndex index key []
  | w, .objectsFor index ref, x, w' => x.Perm ((w.index index).byKey ref) ∧ w' = w
  | w, .read q, x, w' => x = sources q ∧ w' = w
  | w, .swapCredentialFailed key failed, x, w' =>
    x = w.credentialFailed key ∧
      w' = { w with credentialFailed := update w.credentialFailed key (some failed) }
  | w, .deleteCredentialFailed key, _, w' =>
    w' = { w with credentialFailed := update w.credentialFailed key none }
  | w, .event key reason message, _, w' =>
    w' = { w with events := w.events ++ [(key, reason, message)] }
  | w, .connect _, _, w' => w' = w
  | w, .loadSubscription key, x, w' => x = w.subscriptions key ∧ w' = w
  | w, .storeSubscription key remembered config, x, w' =>
    x = w.fresh key remembered config ∧ w' = w.store (w.fresh key remembered config)
  | w, .stopSubscription key, _, w' => w' = w.stop key
  | w, .discard sub, _, w' => w' = (w.cancel sub).setSubscription sub.key none

def Req.answer {B : Broker} (s : Sources) (w : Watcher B) :
    (q : Req B.Remembered B.Config) → q.Reply × Watcher B
  | .setTrigger key trigger =>
    ((), { w with triggers := update w.triggers key (some trigger) })
  | .deleteTrigger key => ((), { w with triggers := update w.triggers key none })
  | .getTrigger key => (w.triggers key, w)
  | .updateIndex index key refs => ((), w.setIndex index key refs)
  | .removeIndex index key => ((), w.setIndex index key [])
  | .objectsFor index ref => ((w.index index).byKey ref, w)
  | .read q => (s q, w)
  | .swapCredentialFailed key failed =>
    (w.credentialFailed key,
      { w with credentialFailed := update w.credentialFailed key (some failed) })
  | .deleteCredentialFailed key =>
    ((), { w with credentialFailed := update w.credentialFailed key none })
  | .event key reason message => ((), { w with events := w.events ++ [(key, reason, message)] })
  | .connect _ => (none, w)
  | .loadSubscription key => (w.subscriptions key, w)
  | .storeSubscription key remembered config =>
    (w.fresh key remembered config, w.store (w.fresh key remembered config))
  | .stopSubscription key => ((), w.stop key)
  | .discard sub => ((), (w.cancel sub).setSubscription sub.key none)

theorem Req.answer_env {B : Broker} (s : Sources) (w : Watcher B) (q : Req B.Remembered B.Config) :
    Req.env s w q (Req.answer s w q).1 (Req.answer s w q).2 := by
  cases q <;> simp [Req.env, Req.answer]

/-! ## Every live subscription is stored -/

/-- The subscriptions that run are those of the map, each under the key of its Trigger. -/
structure Watcher.Coherent {B : Broker} (w : Watcher B) : Prop where
  stored : ∀ sub ∈ w.live, w.subscriptions sub.key = some sub
  keyed : ∀ key sub, w.subscriptions key = some sub → sub.key = key
  running : ∀ key sub, w.subscriptions key = some sub → sub ∈ w.live
  once : w.live.Nodup

section Coherence

variable {B : Broker} {w : Watcher B}

@[simp] theorem Watcher.subscriptions_store (sub : Subscription B.Remembered B.Config) :
    (w.store sub).subscriptions = update w.subscriptions sub.key (some sub) := rfl

@[simp] theorem Watcher.subscriptions_cancel (sub : Subscription B.Remembered B.Config) :
    (w.cancel sub).subscriptions = w.subscriptions := rfl

@[simp] theorem Watcher.subscriptions_setSubscription (key : NamespacedName)
    (sub : Option (Subscription B.Remembered B.Config)) :
    (w.setSubscription key sub).subscriptions = update w.subscriptions key sub := rfl

theorem Watcher.mem_cancel {sub s : Subscription B.Remembered B.Config} :
    s ∈ (w.cancel sub).live ↔ s ∈ w.live ∧ s ≠ sub := by
  simp [Watcher.cancel]

theorem Watcher.coherent_start (B : Broker) : (Watcher.start B).Coherent where
  stored _ hsub := by cases hsub
  keyed _ _ h := by cases h
  running _ _ h := by cases h
  once := List.nodup_nil

theorem Watcher.Coherent.congr {w' : Watcher B} (h : w.Coherent) (hsubs : w'.subscriptions = w.subscriptions)
    (hlive : w'.live = w.live) : w'.Coherent := by
  constructor
  · rw [hsubs, hlive]
    exact h.stored
  · rw [hsubs]
    exact h.keyed
  · rw [hsubs, hlive]
    exact h.running
  · rw [hlive]
    exact h.once

theorem Watcher.Coherent.store (h : w.Coherent) {sub : Subscription B.Remembered B.Config}
    (hnone : w.subscriptions sub.key = none) : (w.store sub).Coherent where
  stored s hs := by
    rcases List.mem_cons.mp hs with rfl | hs
    · exact update_self ..
    · have hkept := h.stored s hs
      have hne : s.key ≠ sub.key := by
        intro heq
        rw [heq, hnone] at hkept
        cases hkept
      exact (update_of_ne hne ..).trans hkept
  keyed key s hs := by
    rw [Watcher.subscriptions_store, update_apply] at hs
    split at hs
    next hkey =>
      cases hs
      exact hkey.symm
    · exact h.keyed key s hs
  running key s hs := by
    rw [Watcher.subscriptions_store, update_apply] at hs
    split at hs
    · cases hs
      exact List.mem_cons_self
    · exact List.mem_cons_of_mem _ (h.running key s hs)
  once := by
    refine List.nodup_cons.mpr ⟨fun hmem => ?_, h.once⟩
    rw [h.stored sub hmem] at hnone
    cases hnone

theorem Watcher.Coherent.discard (h : w.Coherent) {sub : Subscription B.Remembered B.Config}
    (hown : ∀ s, w.subscriptions sub.key = some s → s = sub) :
    ((w.cancel sub).setSubscription sub.key none).Coherent where
  stored s hs := by
    obtain ⟨hlive, hne⟩ := Watcher.mem_cancel.mp hs
    have hkept := h.stored s hlive
    have hkey : s.key ≠ sub.key := by
      intro heq
      rw [heq] at hkept
      exact hne (hown s hkept)
    exact (update_of_ne hkey ..).trans hkept
  keyed key s hs := by
    rw [Watcher.subscriptions_setSubscription, update_apply] at hs
    split at hs
    · cases hs
    · exact h.keyed key s hs
  running key s hs := by
    rw [Watcher.subscriptions_setSubscription, update_apply] at hs
    split at hs
    · cases hs
    next hkey =>
      refine Watcher.mem_cancel.mpr ⟨h.running key s hs, ?_⟩
      rintro rfl
      exact hkey (h.keyed key s hs).symm
  once := h.once.filter _

theorem Watcher.Coherent.stop (h : w.Coherent) (key : NamespacedName) : (w.stop key).Coherent := by
  unfold Watcher.stop
  cases hsub : w.subscriptions key with
  | none => exact h
  | some sub =>
    have hkey := h.keyed key sub hsub
    subst hkey
    refine h.discard fun s hs => ?_
    rw [hsub] at hs
    exact (Option.some.inj hs).symm

end Coherence

end KubeZap.Gateway
