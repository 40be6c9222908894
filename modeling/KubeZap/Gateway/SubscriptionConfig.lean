import KubeZap.Foundation.Run
import KubeZap.Gateway.BrokerLedger

/-! # Running subscriptions and the present configuration

Triggers, Integrations and Secrets change, and the watcher handles each change to its
end before the next. What it runs for a Trigger is compared with what
`startSubscription` builds from the objects as they are now. The proof follows one
entry of the watcher per Trigger: a change of an object reconsiders the entries that
the indexes name, and leaves the others alone.
-/

namespace KubeZap.Gateway

open Foundation Function

/-! ## Objects and their changes -/

structure Cluster where
  triggers : NamespacedName → Option Trigger
  integrations : NamespacedName → Option Integration
  secrets : NamespacedName → Option (StringMap String)
  keyed : ∀ key trigger, triggers key = some trigger → trigger.key = key
  named : ∀ name integration, integrations name = some integration → integration.name = name

def Cluster.empty : Cluster where
  triggers _ := none
  integrations _ := none
  secrets _ := none
  keyed _ _ h := by cases h
  named _ _ h := by cases h

def Cluster.sources (c : Cluster) : Sources
  | .getIntegration name =>
    match c.integrations name with
    | some integration => .ok integration
    | none => .error "not found"
  | .getSecret name =>
    match c.secrets name with
    | some data => .ok data
    | none => .error "not found"

inductive Change
  | setTrigger (trigger : Trigger)
  | deleteTrigger (trigger : Trigger)
  | setIntegration (integration : Integration)
  | deleteIntegration (name : NamespacedName)
  | setSecret (name : NamespacedName) (data : StringMap String)
  | deleteSecret (name : NamespacedName)

theorem update_named {α : Type} {objects : NamespacedName → Option α} {name : α → NamespacedName}
    (h : ∀ key object, objects key = some object → name object = key) {key : NamespacedName}
    {object : Option α} (hkey : ∀ o, object = some o → name o = key) :
    ∀ k o, update objects key object k = some o → name o = k :=
  (forall_update_iff objects fun k x => ∀ o, x = some o → name o = k).mpr ⟨hkey, fun k _ => h k⟩

def Cluster.setTrigger (c : Cluster) (key : NamespacedName) (trigger : Option Trigger)
    (hkey : ∀ t, trigger = some t → t.key = key) : Cluster where
  triggers := update c.triggers key trigger
  integrations := c.integrations
  secrets := c.secrets
  keyed := update_named c.keyed hkey
  named := c.named

def Cluster.setIntegration (c : Cluster) (name : NamespacedName) (integration : Option Integration)
    (hname : ∀ i, integration = some i → i.name = name) : Cluster where
  triggers := c.triggers
  integrations := update c.integrations name integration
  secrets := c.secrets
  keyed := c.keyed
  named := update_named c.named hname

def Cluster.apply (c : Cluster) : Change → Cluster
  | .setTrigger trigger =>
    c.setTrigger trigger.key (some trigger) fun _ h => by rw [Option.some.inj h]
  | .deleteTrigger trigger => c.setTrigger trigger.key none fun _ h => by cases h
  | .setIntegration integration =>
    c.setIntegration integration.name (some integration) fun _ h => by rw [Option.some.inj h]
  | .deleteIntegration name => c.setIntegration name none fun _ h => by cases h
  | .setSecret name data => { c with secrets := update c.secrets name (some data) }
  | .deleteSecret name => { c with secrets := update c.secrets name none }

/-- The informers of Integrations and Secrets have no handler for a deletion. -/
def Change.handle (B : Broker) : Change → WatchProgram B Unit
  | .setTrigger trigger => reconcileTrigger B trigger
  | .deleteTrigger trigger => onTriggerDelete B trigger
  | .setIntegration integration => handleIntegrationChange B integration.name
  | .setSecret name _ => handleSecretChange B name
  | .deleteIntegration _ | .deleteSecret _ => return ()

/-! ## What should run -/

def Watcher.Runs {B : Broker} (w : Watcher B) (key : NamespacedName) (config : B.Config) : Prop :=
  ∃ sub ∈ w.live, sub.key = key ∧ sub.config = config

section Expectation

variable {B : Broker} (L : Ledger B)

/-- What `startSubscription` builds from the present objects, if it gets so far and does
not refuse. -/
def Ledger.expected (s : Sources) (trigger : Trigger) (watch : B.Watch) : Option B.Config :=
  match s (.getIntegration (B.integrationKey trigger watch)) with
  | .error _ => none
  | .ok integration =>
    match B.spec integration with
    | none => none
    | some spec =>
      match ((B.resolveCredentials trigger.key.namespace_ spec).replay s).2 with
      | (_, some _) => none
      | (creds, none) => (L.build s trigger watch spec creds).toOption

/-- The Integration can be read, and so can every credential that it names. -/
def Ledger.Readable (s : Sources) (trigger : Trigger) (watch : B.Watch) : Prop :=
  ∃ integration, s (.getIntegration (B.integrationKey trigger watch)) = .ok integration ∧
    ∀ spec, B.spec integration = some spec → L.complete spec = true →
      ∃ creds, ((B.resolveCredentials trigger.key.namespace_ spec).replay s).2 = (creds, none)

/-- The running subscription of a Trigger is compared on all that tells it from what
would be started now: the Integration still has the section of the broker, its
credentials are complete, and where the remembered fields are equal the others are. -/
def Ledger.Notices (s : Sources) (trigger : Trigger) (watch : B.Watch)
    (sub : Subscription B.Remembered B.Config) : Prop :=
  ∃ integration spec creds,
    s (.getIntegration (B.integrationKey trigger watch)) = .ok integration ∧
    B.spec integration = some spec ∧
    ((B.resolveCredentials trigger.key.namespace_ spec).replay s).2 = (creds, none) ∧
    (B.unchanged sub.remembered watch (creds.fingerprint B.lib) = true →
      ∃ config, L.build s trigger watch spec creds = .ok config ∧
        L.unremembered sub.config = L.unremembered config)

structure Site (B : Broker) where
  cluster : Cluster
  watcher : Watcher B

def Site.start (B : Broker) : Site B := ⟨.empty, .start B⟩

def Change.Reconsiders (w : Watcher B) : Change → NamespacedName → Prop
  | .setTrigger trigger, key => key = trigger.key
  | .setIntegration integration, key => key ∈ (w.index .integrations).byKey integration.name
  | .setSecret name _, key => key ∈ (w.index .secrets).byKey name
  | .deleteTrigger _, _ | .deleteIntegration _, _ | .deleteSecret _, _ => False

/-- A change is made and handled to the end; all reads and connections succeed. -/
def Ledger.Handled (site : Site B) (change : Change) (site' : Site B) : Prop :=
  site'.cluster = site.cluster.apply change ∧
    Completes (Connected site'.cluster.sources) site.watcher (change.handle B) site'.watcher () ∧
    ∀ key trigger watch, change.Reconsiders site.watcher key →
      site'.cluster.triggers key = some trigger → B.watch trigger = some watch →
      L.Readable site'.cluster.sources trigger watch

/-- No running subscription that the change reaches is taken for the wanted one by the
remembered fields alone. -/
def Ledger.Noticed (site : Site B) (change : Change) : Prop :=
  ∀ key trigger watch sub, change.Reconsiders site.watcher key →
    (site.cluster.apply change).triggers key = some trigger → B.watch trigger = some watch →
    site.watcher.subscriptions key = some sub →
    L.Notices (site.cluster.apply change).sources trigger watch sub

/-- Every enabled Trigger of the broker whose objects can be read runs with what would be
built for it now, and with nothing else. -/
def Ledger.Current (site : Site B) : Prop :=
  ∀ key trigger watch, site.cluster.triggers key = some trigger → B.watch trigger = some watch →
    L.Readable site.cluster.sources trigger watch → ∀ config,
      site.watcher.Runs key config ↔
        L.expected site.cluster.sources trigger watch = some config

end Expectation

/-! ## Entries -/

structure Entry (B : Broker) where
  trigger : Option Trigger
  secrets : List NamespacedName
  integrations : List NamespacedName
  subscription : Option (Subscription B.Remembered B.Config)

def Entry.absent (B : Broker) : Entry B := ⟨none, [], [], none⟩

def Watcher.entry {B : Broker} (w : Watcher B) (key : NamespacedName) : Entry B where
  trigger := w.triggers key
  secrets := (w.index .secrets).byObject key
  integrations := (w.index .integrations).byObject key
  subscription := w.subscriptions key

section Entries

variable {B : Broker} {w w' w₁ : Watcher B} {key : NamespacedName} {e e' : Entry B}

def Entry.refs (e : Entry B) : IndexName → List NamespacedName
  | .secrets => e.secrets
  | .integrations => e.integrations

theorem Watcher.refs_entry (w : Watcher B) (index : IndexName) (k : NamespacedName) :
    (w.entry k).refs index = (w.index index).byObject k := by
  cases index <;> rfl

structure Watcher.Touches (w : Watcher B) (key : NamespacedName) (e : Entry B) (w' : Watcher B) :
    Prop where
  coherent : w'.Coherent
  entry : w'.entry = update w.entry key e

theorem Watcher.Touches.self (h : w.Touches key e w') : w'.entry key = e := by
  rw [h.entry, update_self]

theorem Watcher.Touches.others (h : w.Touches key e w') (k : NamespacedName) (hk : k ≠ key) :
    w'.entry k = w.entry k := by
  rw [h.entry, update_of_ne hk]

theorem Watcher.Touches.trans (h : w.Touches key e w₁) (h' : w₁.Touches key e' w') :
    w.Touches key e' w' :=
  ⟨h'.coherent, by rw [h'.entry, h.entry, update_idem]⟩

theorem Watcher.touches_of {w' : Watcher B} (hw : w'.Coherent) (hself : w'.entry key = e)
    (hother : ∀ k, k ≠ key → w'.entry k = w.entry k) : w.Touches key e w' := by
  refine ⟨hw, ?_⟩
  funext k
  by_cases hk : k = key
  · subst hk
    rw [update_self, hself]
  · rw [update_of_ne hk, hother k hk]

theorem Watcher.Same.touches (h : w.Same w') (hw : w.Coherent) (key : NamespacedName) :
    w.Touches key (w.entry key) w' := by
  have hentry (k : NamespacedName) : w'.entry k = w.entry k := by
    simp [Watcher.entry, h.triggers, h.index, h.subscriptions]
  exact Watcher.touches_of (hw.congr h.subscriptions h.live) (hentry key) fun k _ => hentry k

theorem Watcher.touches_setTrigger (hw : w.Coherent) (trigger : Option Trigger) :
    w.Touches key { w.entry key with trigger := trigger }
      { w with triggers := update w.triggers key trigger } :=
  Watcher.touches_of (hw.congr rfl rfl) (by simp [Watcher.entry])
    fun k hk => by simp [Watcher.entry, hk]

theorem Watcher.touches_setSecrets (hw : w.Coherent) (refs : List NamespacedName) :
    w.Touches key { w.entry key with secrets := refs } (w.setIndex .secrets key refs) :=
  Watcher.touches_of (hw.congr rfl rfl) (by simp [Watcher.entry, Watcher.setIndex])
    fun k hk => by simp [Watcher.entry, Watcher.setIndex, hk]

theorem Watcher.touches_setIntegrations (hw : w.Coherent) (refs : List NamespacedName) :
    w.Touches key { w.entry key with integrations := refs } (w.setIndex .integrations key refs) :=
  Watcher.touches_of (hw.congr rfl rfl) (by simp [Watcher.entry, Watcher.setIndex])
    fun k hk => by simp [Watcher.entry, Watcher.setIndex, hk]

theorem Watcher.touches_store (hw : w.Coherent) (sub : Subscription B.Remembered B.Config)
    (hnone : w.subscriptions sub.key = none) :
    w.Touches sub.key { w.entry sub.key with subscription := some sub } (w.store sub) :=
  Watcher.touches_of (hw.store hnone) (by simp [Watcher.entry, Watcher.store])
    fun k hk => by simp [Watcher.entry, Watcher.store, hk]

theorem Watcher.touches_stop (hw : w.Coherent) :
    w.Touches key { w.entry key with subscription := none } (w.stop key) := by
  refine Watcher.touches_of (hw.stop key) ?_ fun k hk => ?_ <;> unfold Watcher.stop <;>
    cases hsub : w.subscriptions key
  · simp [Watcher.entry, hsub]
  · simp [Watcher.entry, Watcher.setSubscription, Watcher.cancel]
  · rfl
  · simp [Watcher.entry, Watcher.setSubscription, Watcher.cancel, hk]

theorem Watcher.Touches.cleared {w₂ : Watcher B} (h : w.Touches key e w₁)
    (hsame : ((w₁.setIndex .secrets key []).setIndex .integrations key []).Same w₂) :
    w.Touches key ⟨e.trigger, [], [], none⟩ (w₂.stop key) := by
  have hsecrets := h.trans (Watcher.touches_setSecrets h.coherent [])
  have hindexed := hsecrets.trans (Watcher.touches_setIntegrations hsecrets.coherent [])
  have hrest := hindexed.trans (hsame.touches hindexed.coherent key)
  have hstopped := hrest.trans (Watcher.touches_stop hrest.coherent)
  rwa [hrest.self, hindexed.self, hsecrets.self, h.self] at hstopped

theorem Watcher.Coherent.runs_iff (h : w.Coherent) {config : B.Config} :
    w.Runs key config ↔ (w.subscriptions key).map (·.config) = some config := by
  constructor
  · rintro ⟨sub, hsub, rfl, rfl⟩
    rw [h.stored sub hsub]
    rfl
  · intro hconfig
    obtain ⟨sub, hsub, rfl⟩ := Option.map_eq_some_iff.mp hconfig
    exact ⟨sub, h.running key sub hsub, h.keyed key sub hsub, rfl⟩

end Entries

/-! ## One Trigger is reconsidered -/

section Reconsider

variable {B : Broker} (L : Ledger B)

def Ledger.Made (key : NamespacedName) (sub : Subscription B.Remembered B.Config) : Prop :=
  ∃ s trigger watch spec creds, trigger.key = key ∧
    L.build s trigger watch spec creds = .ok sub.config ∧
    sub.remembered = L.remember watch spec (creds.fingerprint B.lib)

/-- The entry of a watched Trigger whose Integration has this section. -/
def Ledger.Fits (s : Sources) (trigger : Trigger) (watch : B.Watch) (e : Entry B) :
    Option B.Spec → Prop
  | none => e.subscription = none
  | some spec =>
    if L.complete spec = true then
      e.secrets = L.refs trigger.key.namespace_ spec ∧
      ∀ creds, ((B.resolveCredentials trigger.key.namespace_ spec).replay s).2 = (creds, none) →
        e.subscription.map (·.config) = (L.build s trigger watch spec creds).toOption
    else e.subscription = none

/-- The entry of a Trigger that was reconsidered. -/
structure Ledger.Settled (s : Sources) (trigger : Trigger) (e : Entry B) : Prop where
  known : e.trigger = some trigger
  made : ∀ sub, e.subscription = some sub → L.Made trigger.key sub
  unwatched : B.watch trigger = none → e.secrets = [] ∧ e.integrations = [] ∧ e.subscription = none
  indexed : ∀ watch, B.watch trigger = some watch →
    e.integrations = [B.integrationKey trigger watch]
  fits : ∀ watch integration, B.watch trigger = some watch →
    s (.getIntegration (B.integrationKey trigger watch)) = .ok integration →
    L.Fits s trigger watch e (B.spec integration)

/-- What becomes of the subscription of a Trigger whose credentials were read, or not. -/
inductive Ledger.Subscribed (L : Ledger B) (s : Sources) (trigger : Trigger) (watch : B.Watch)
    (spec : B.Spec) (creds : Resolved B.Values) (old : Option (Subscription B.Remembered B.Config)) :
    Option String → Option (Subscription B.Remembered B.Config) → Prop
  | unresolved (err : String) : L.Subscribed s trigger watch spec creds old (some err) old
  | kept {sub : Subscription B.Remembered B.Config} : old = some sub →
      B.unchanged sub.remembered watch (creds.fingerprint B.lib) = true →
      L.Subscribed s trigger watch spec creds old none old
  | started {new : Option (Subscription B.Remembered B.Config)} :
      new.map (·.config) = (L.build s trigger watch spec creds).toOption →
      (∀ sub, new = some sub → L.Made trigger.key sub) →
      L.Subscribed s trigger watch spec creds old none new

inductive Ledger.Turn (L : Ledger B) (s : Sources) (trigger : Trigger) (watch : B.Watch)
    (e : Entry B) : Entry B → Prop
  | unread {err : String} : s (.getIntegration (B.integrationKey trigger watch)) = .error err →
      L.Turn s trigger watch e ⟨some trigger, e.secrets, [B.integrationKey trigger watch],
        e.subscription⟩
  | missing {integration : Integration} :
      s (.getIntegration (B.integrationKey trigger watch)) = .ok integration →
      B.spec integration = none →
      L.Turn s trigger watch e ⟨some trigger, e.secrets, [B.integrationKey trigger watch],
        e.subscription⟩
  | resolved {integration : Integration} {spec : B.Spec} {creds : Resolved B.Values}
      {credErr : Option String} {new : Option (Subscription B.Remembered B.Config)} :
      s (.getIntegration (B.integrationKey trigger watch)) = .ok integration →
      B.spec integration = some spec →
      ((B.resolveCredentials trigger.key.namespace_ spec).replay s).2 = (creds, credErr) →
      L.Subscribed s trigger watch spec creds e.subscription credErr new →
      L.Turn s trigger watch e ⟨some trigger, creds.secretRefs,
        [B.integrationKey trigger watch], new⟩

variable {L} {s : Sources} {w w' : Watcher B} {trigger : Trigger} {watch : B.Watch} {spec : B.Spec}
  {creds : Resolved B.Values}

theorem completes_recordFailure {integrationName err : String}
    (h : Completes (Connected s) w (recordCredentialFailure B trigger integrationName err) w' ()) :
    w.Same w' := by
  obtain ⟨_, _, ⟨⟨_, rfl⟩, _⟩, h⟩ := completes_call.mp h
  obtain ⟨_, _, ⟨rfl, _⟩, h⟩ := completes_call.mp h
  obtain ⟨rfl, _⟩ := completes_pure.mp h
  exact ⟨rfl, rfl, rfl, rfl⟩

theorem completes_recordSuccess {integrationName : String}
    (h : Completes (Connected s) w (recordCredentialSuccess B trigger integrationName) w' ()) :
    w.Same w' := by
  obtain ⟨prev, _, ⟨⟨_, rfl⟩, _⟩, h⟩ := completes_request.mp h
  split at h
  · obtain ⟨_, _, ⟨rfl, _⟩, h⟩ := completes_call.mp h
    obtain ⟨rfl, _⟩ := completes_pure.mp h
    exact ⟨rfl, rfl, rfl, rfl⟩
  · obtain ⟨rfl, _⟩ := completes_return.mp h
    exact ⟨rfl, rfl, rfl, rfl⟩

theorem Ledger.started (hw : w.Coherent) (hnone : w.subscriptions trigger.key = none)
    (h : Completes (Connected s) w (startLogged B trigger watch spec creds) w' ())
    (old : Option (Subscription B.Remembered B.Config)) :
    ∃ new, w.Touches trigger.key { w.entry trigger.key with subscription := new } w' ∧
      L.Subscribed s trigger watch spec creds old none new := by
  obtain ⟨_, w₁, hstart, h⟩ := completes_bind.mp h
  obtain ⟨rfl, _⟩ := completes_return.mp h
  obtain ⟨hok, herr⟩ := L.starts hw hnone hstart
  cases hbuild : L.build s trigger watch spec creds with
  | error err =>
    refine ⟨none, ?_, .started (by rw [hbuild]; rfl) nofun⟩
    have hentry : ({ w.entry trigger.key with subscription := none } : Entry B) =
        w.entry trigger.key := by simp [Watcher.entry, hnone]
    rw [hentry]
    exact (herr err hbuild).touches hw trigger.key
  | ok config =>
    refine ⟨some (w.fresh trigger.key (L.remember watch spec (creds.fingerprint B.lib)) config),
      ?_, .started (by rw [hbuild]; rfl) ?_⟩
    · rw [hok config hbuild]
      exact Watcher.touches_store hw (w.fresh trigger.key _ config) hnone
    · rintro _ ⟨⟩
      exact ⟨s, trigger, watch, spec, creds, rfl, hbuild, rfl⟩

theorem Ledger.subscribed (hw : w.Coherent)
    (hrun : Completes (Connected s) w (applySubscription B trigger watch spec creds) w' ()) :
    ∃ new, w.Touches trigger.key { w.entry trigger.key with subscription := new } w' ∧
      L.Subscribed s trigger watch spec creds (w.subscriptions trigger.key) none new := by
  obtain ⟨_, w, ⟨⟨rfl, rfl⟩, _⟩, h⟩ := completes_request.mp hrun
  cases hsub : w.subscriptions trigger.key with
  | none =>
    rw [hsub] at h
    exact L.started hw hsub h _
  | some sub =>
    rw [hsub] at h
    dsimp only at h
    split at h
    next hsame =>
      obtain ⟨rfl, _⟩ := completes_return.mp h
      refine ⟨some sub, ?_, .kept rfl hsame⟩
      rw [← hsub]
      exact (Watcher.Same.refl _).touches hw trigger.key
    · obtain ⟨_, _, ⟨rfl, _⟩, h⟩ := completes_request.mp h
      have hstop : w.Touches trigger.key _ _ := Watcher.touches_stop hw
      obtain ⟨new, htouches, hnew⟩ := L.started (w := w.stop trigger.key) hstop.coherent
        (congrArg Entry.subscription hstop.self) h (some sub)
      rw [hstop.self] at htouches
      exact ⟨new, hstop.trans htouches, hnew⟩

theorem Ledger.turned (hw : w.Coherent) (hwatch : B.watch trigger = some watch)
    (hrun : Completes (Connected s) w (reconcileTrigger B trigger) w' ()) :
    ∃ e, w.Touches trigger.key e w' ∧ L.Turn s trigger watch (w.entry trigger.key) e := by
  obtain ⟨_, _, ⟨rfl, _⟩, h⟩ := completes_request.mp hrun
  have hset : w.Touches trigger.key _ _ := Watcher.touches_setTrigger hw (some trigger)
  rw [hwatch] at h
  obtain ⟨_, _, ⟨rfl, _⟩, h⟩ := completes_request.mp h
  have hindexed := hset.trans (Watcher.touches_setIntegrations hset.coherent
    [B.integrationKey trigger watch])
  rw [hset.self] at hindexed
  obtain ⟨_, _, ⟨⟨rfl, rfl⟩, _⟩, h⟩ := completes_request.mp h
  have hfailed {w₂ : Watcher B} {e : Entry B} {name err : String}
      (hbefore : w.Touches trigger.key e w₂)
      (h : Completes (Connected s) w₂ (recordCredentialFailure B trigger name err) w' ()) :
      w.Touches trigger.key e w' := by
    have hsame := hbefore.trans ((completes_recordFailure h).touches hbefore.coherent trigger.key)
    rwa [hbefore.self] at hsame
  cases hread : s (.getIntegration (B.integrationKey trigger watch)) with
  | error err =>
    rw [hread] at h
    exact ⟨_, hfailed hindexed h, .unread hread⟩
  | ok integration =>
    rw [hread] at h
    dsimp only at h
    cases hspec : B.spec integration with
    | none =>
      rw [hspec] at h
      exact ⟨_, hfailed hindexed h, .missing hread hspec⟩
    | some spec =>
      rw [hspec] at h
      obtain ⟨⟨creds, credErr⟩, _, hresolve, h⟩ := completes_bind.mp h
      obtain ⟨rfl, hcreds⟩ := completes_read.mp hresolve
      obtain ⟨_, w₃, ⟨hw₃, _⟩, h⟩ := completes_request.mp h
      have hsecrets := hindexed.trans (hw₃ ▸ Watcher.touches_setSecrets hindexed.coherent
        creds.secretRefs)
      rw [hindexed.self] at hsecrets
      cases credErr with
      | some err => exact ⟨_, hfailed hsecrets h, .resolved hread hspec hcreds.symm (.unresolved err)⟩
      | none =>
        obtain ⟨_, w₄, hsuccess, h⟩ := completes_bind.mp h
        have hready := hsecrets.trans ((completes_recordSuccess hsuccess).touches
          hsecrets.coherent trigger.key)
        rw [hsecrets.self] at hready
        obtain ⟨new, htouches, hnew⟩ := L.subscribed hready.coherent h
        have hold : w₄.subscriptions trigger.key = w.subscriptions trigger.key :=
          congrArg Entry.subscription hready.self
        rw [hready.self] at htouches
        rw [hold] at hnew
        exact ⟨_, hready.trans htouches, .resolved hread hspec hcreds.symm hnew⟩

/-- After the call the entry of the Trigger is settled, and no other has changed. -/
structure Ledger.Reconciled (L : Ledger B) (s : Sources) (w : Watcher B) (trigger : Trigger)
    (w' : Watcher B) : Prop where
  coherent : w'.Coherent
  others : ∀ key, key ≠ trigger.key → w'.entry key = w.entry key
  settled : L.Settled s trigger (w'.entry trigger.key)

/-- The Trigger of a call can be read, and what runs for it is compared well. -/
structure Ledger.Admits (L : Ledger B) (s : Sources) (trigger : Trigger)
    (running : Option (Subscription B.Remembered B.Config)) : Prop where
  made : ∀ sub, running = some sub → L.Made trigger.key sub
  readable : ∀ watch, B.watch trigger = some watch → L.Readable s trigger watch
  notices : ∀ watch sub, B.watch trigger = some watch → running = some sub →
    L.Notices s trigger watch sub

theorem Ledger.settled_of {e : Entry B} (hwatch : B.watch trigger = some watch)
    (hknown : e.trigger = some trigger) (hindexed : e.integrations = [B.integrationKey trigger watch])
    {integration : Integration}
    (hread : s (.getIntegration (B.integrationKey trigger watch)) = .ok integration)
    (hmade : ∀ sub, e.subscription = some sub → L.Made trigger.key sub)
    (hfits : L.Fits s trigger watch e (B.spec integration)) : L.Settled s trigger e where
  known := hknown
  made := hmade
  unwatched hnone := by cases hwatch.symm.trans hnone
  indexed watch' h := by
    cases hwatch.symm.trans h
    exact hindexed
  fits watch' i h hi := by
    cases hwatch.symm.trans h
    cases hread.symm.trans hi
    exact hfits

theorem Ledger.complete_of (hcreds :
    ((B.resolveCredentials trigger.key.namespace_ spec).replay s).2 = (creds, none)) :
    L.complete spec = true := by
  by_contra hcomplete
  obtain ⟨creds', err, herr⟩ := L.incomplete (by simpa using hcomplete) s trigger.key.namespace_
  cases hcreds.symm.trans herr

theorem Ledger.Turn.settled {e e' : Entry B} (h : L.Turn s trigger watch e e')
    (hwatch : B.watch trigger = some watch) (hadmits : L.Admits s trigger e.subscription) :
    L.Settled s trigger e' := by
  obtain ⟨integration, hintegration, hcredentials⟩ := hadmits.readable watch hwatch
  cases h with
  | unread herr => cases hintegration.symm.trans herr
  | missing hread hspec =>
    cases hintegration.symm.trans hread
    refine L.settled_of hwatch rfl rfl hread hadmits.made ?_
    rw [hspec]
    -- what runs would have a section
    refine Option.eq_none_iff_forall_ne_some.mpr fun sub hsub => ?_
    obtain ⟨i, spec, creds, hi, hspec', -⟩ := hadmits.notices watch sub hwatch hsub
    cases hread.symm.trans hi
    cases hspec.symm.trans hspec'
  | @resolved _ spec creds credErr new hread hspec hcreds hnew =>
    cases hintegration.symm.trans hread
    have hnotices : ∀ sub, e.subscription = some sub → credErr = none ∧
        (B.unchanged sub.remembered watch (creds.fingerprint B.lib) = true →
          ∃ config, L.build s trigger watch spec creds = .ok config ∧
            L.unremembered sub.config = L.unremembered config) := by
      intro sub hsub
      obtain ⟨i, spec', creds', hi, hspec', hcreds', hnoticed⟩ := hadmits.notices watch sub hwatch hsub
      cases hread.symm.trans hi
      cases hspec.symm.trans hspec'
      cases hcreds.symm.trans hcreds'
      exact ⟨rfl, hnoticed⟩
    have hfits (hcomplete : credErr = none) (hconfig : new.map (·.config) =
        (L.build s trigger watch spec creds).toOption) : L.Fits s trigger watch
          ⟨some trigger, creds.secretRefs, [B.integrationKey trigger watch], new⟩ (some spec) := by
      rw [hcomplete] at hcreds
      simp only [Ledger.Fits, L.complete_of hcreds, if_true]
      refine ⟨(L.found s _ spec creds hcreds).1, fun creds' hcreds' => ?_⟩
      cases hcreds.symm.trans hcreds'
      exact hconfig
    cases hnew with
    | unresolved err =>
      refine L.settled_of hwatch rfl rfl hread hadmits.made ?_
      have hincomplete : ¬ L.complete spec = true := by
        intro hcomplete
        obtain ⟨creds', hcreds'⟩ := hcredentials spec hspec hcomplete
        cases hcreds.symm.trans hcreds'
      rw [hspec, Ledger.Fits, if_neg hincomplete]
      exact Option.eq_none_iff_forall_ne_some.mpr fun sub hsub => nomatch (hnotices sub hsub).1
    | @kept sub hold hsame =>
      refine L.settled_of hwatch rfl rfl hread hadmits.made (hspec ▸ hfits rfl ?_)
      obtain ⟨config, hbuild, hrest⟩ := (hnotices sub hold).2 hsame
      obtain ⟨s₀, t₀, watch₀, spec₀, creds₀, hkey, hbuilt, hremembered⟩ := hadmits.made sub hold
      rw [hremembered] at hsame
      rw [hold, hbuild, Option.map_some, L.determined hkey hbuilt hbuild hsame hrest]
      rfl
    | started hconfig hmade =>
      exact L.settled_of hwatch rfl rfl hread hmade (hspec ▸ hfits rfl hconfig)

theorem touches_unwatched (hw : w.Coherent) (hwatch : B.watch trigger = none)
    (hrun : Completes (Connected s) w (reconcileTrigger B trigger) w' ()) :
    w.Touches trigger.key ⟨some trigger, [], [], none⟩ w' := by
  obtain ⟨_, _, ⟨rfl, _⟩, h⟩ := completes_request.mp hrun
  rw [hwatch] at h
  obtain ⟨_, _, ⟨rfl, _⟩, h⟩ := completes_request.mp h
  obtain ⟨_, _, ⟨rfl, _⟩, h⟩ := completes_request.mp h
  obtain ⟨_, _, ⟨rfl, _⟩, h⟩ := completes_call.mp h
  obtain ⟨rfl, _⟩ := completes_pure.mp h
  exact (Watcher.touches_setTrigger hw (some trigger)).cleared (.refl _)

theorem Ledger.reconciled (hw : w.Coherent)
    (hadmits : L.Admits s trigger (w.subscriptions trigger.key))
    (hrun : Completes (Connected s) w (reconcileTrigger B trigger) w' ()) :
    L.Reconciled s w trigger w' := by
  cases hwatch : B.watch trigger with
  | none =>
    have htouches := touches_unwatched hw hwatch hrun
    refine ⟨htouches.coherent, htouches.others, ?_⟩
    rw [htouches.self]
    refine ⟨rfl, nofun, fun _ => ⟨rfl, rfl, rfl⟩, fun watch h => ?_, fun watch _ h => ?_⟩ <;>
      cases hwatch.symm.trans h
  | some watch =>
    obtain ⟨e, htouches, hturn⟩ := L.turned hw hwatch hrun
    refine ⟨htouches.coherent, htouches.others, ?_⟩
    rw [htouches.self]
    exact hturn.settled hwatch hadmits

theorem completes_onTriggerDelete (hw : w.Coherent)
    (hrun : Completes (Connected s) w (onTriggerDelete B trigger) w' ()) :
    w.Touches trigger.key (.absent B) w' := by
  obtain ⟨_, _, ⟨rfl, _⟩, h⟩ := completes_request.mp hrun
  obtain ⟨_, _, ⟨rfl, _⟩, h⟩ := completes_request.mp h
  obtain ⟨_, _, ⟨rfl, _⟩, h⟩ := completes_request.mp h
  obtain ⟨_, _, ⟨rfl, _⟩, h⟩ := completes_request.mp h
  obtain ⟨_, _, ⟨rfl, _⟩, h⟩ := completes_call.mp h
  obtain ⟨rfl, _⟩ := completes_pure.mp h
  exact (Watcher.touches_setTrigger hw none).cleared ⟨rfl, rfl, rfl, rfl⟩

theorem Ledger.reprocessed {affected : List NamespacedName} (hnodup : affected.Nodup)
    (hw : w.Coherent) (hready : ∀ key ∈ affected, ∃ t, w.triggers key = some t ∧ t.key = key ∧
      L.Admits s t (w.subscriptions key))
    (hrun : Completes (Connected s) w (reprocess B affected) w' ()) :
    w'.Coherent ∧ (∀ key, key ∉ affected → w'.entry key = w.entry key) ∧
      ∀ key ∈ affected, ∀ t, w.triggers key = some t → L.Settled s t (w'.entry key) := by
  induction affected generalizing w with
  | nil =>
    obtain ⟨rfl, _⟩ := completes_return.mp hrun
    exact ⟨hw, fun _ _ => rfl, fun _ hkey => by cases hkey⟩
  | cons first rest ih =>
    obtain ⟨hfirst, hrest⟩ := List.nodup_cons.mp hnodup
    obtain ⟨found, w₁, ⟨⟨hfound, hw₁⟩, _⟩, h⟩ := completes_request.mp hrun
    obtain ⟨t, ht, hkey, hadmits⟩ := hready first List.mem_cons_self
    rw [hfound, ht] at h
    obtain ⟨_, w₂, hcall, hloop⟩ := completes_bind.mp h
    subst hkey
    rw [hw₁] at hcall
    obtain ⟨hcoherent, hothers, hsettled⟩ := L.reconciled hw hadmits hcall
    have hentries : ∀ key ∈ rest, w₂.entry key = w.entry key := by
      intro key hmem
      refine hothers key ?_
      rintro rfl
      exact hfirst hmem
    have htriggers : ∀ key ∈ rest, w₂.triggers key = w.triggers key :=
      fun key hmem => congrArg Entry.trigger (hentries key hmem)
    have hsubs : ∀ key ∈ rest, w₂.subscriptions key = w.subscriptions key :=
      fun key hmem => congrArg Entry.subscription (hentries key hmem)
    obtain ⟨hlast, hframe, hdone⟩ := ih hrest hcoherent (by
      intro key hmem
      rw [htriggers key hmem, hsubs key hmem]
      exact hready key (List.mem_cons_of_mem _ hmem)) hloop
    refine ⟨hlast, ?_, ?_⟩
    · intro key hmem
      rw [hframe key fun h' => hmem (List.mem_cons_of_mem _ h')]
      exact hothers key fun h' => hmem (h' ▸ List.mem_cons_self)
    · intro key hmem t' ht'
      rcases List.mem_cons.mp hmem with rfl | hmem
      · rw [ht] at ht'
        cases ht'
        rw [hframe _ hfirst]
        exact hsettled
      · exact hdone key hmem t' (by rw [htriggers key hmem, ht'])

theorem Ledger.Settled.transfer {s' : Sources} {e : Entry B} (h : L.Settled s trigger e)
    (hintegration : ∀ watch integration, B.watch trigger = some watch →
      s' (.getIntegration (B.integrationKey trigger watch)) = .ok integration →
      s (.getIntegration (B.integrationKey trigger watch)) = .ok integration)
    (hsecrets : ∀ name ∈ e.secrets, ∀ data,
      s' (.getSecret name) = .ok data → s (.getSecret name) = .ok data) :
    L.Settled s' trigger e := by
  refine ⟨h.known, h.made, h.unwatched, h.indexed, ?_⟩
  intro watch integration hwatch hread
  have hfits := h.fits watch integration hwatch (hintegration watch integration hwatch hread)
  cases hspec : B.spec integration with
  | none =>
    rw [hspec] at hfits
    exact hfits
  | some spec =>
    rw [hspec] at hfits
    by_cases hcomplete : L.complete spec = true
    · simp only [Ledger.Fits, if_pos hcomplete] at hfits ⊢
      obtain ⟨hrefs, hconfig⟩ := hfits
      refine ⟨hrefs, fun creds hcreds => ?_⟩
      have hagree : ∀ q, SecretOf (L.refs trigger.key.namespace_ spec) q → s' q = s q := by
        rintro q ⟨name, hname, rfl⟩
        obtain ⟨data, hdata⟩ := (L.found s' _ spec creds hcreds).2 name hname
        rw [hdata, hsecrets name (hrefs ▸ hname) data hdata]
      rw [(L.asks _ _).replay_congr hagree] at hcreds
      rw [L.builds hagree]
      exact hconfig creds hcreds
    · simp only [Ledger.Fits, if_neg hcomplete] at hfits ⊢
      exact hfits

end Reconsider

/-! ## Whole histories -/

section Histories

variable {B : Broker} {L : Ledger B}

/-- Every entry belongs to a Trigger of the cluster and is settled. -/
structure Ledger.Tracked (L : Ledger B) (site : Site B) : Prop where
  coherent : site.watcher.Coherent
  absent : ∀ key, site.cluster.triggers key = none → site.watcher.entry key = .absent B
  settled : ∀ key trigger, site.cluster.triggers key = some trigger →
    L.Settled site.cluster.sources trigger (site.watcher.entry key)

theorem Ledger.tracked_start (L : Ledger B) : L.Tracked (Site.start B) where
  coherent := Watcher.coherent_start B
  absent _ _ := rfl
  settled _ _ h := by cases h

variable {site site' : Site B} {name : NamespacedName}

theorem Cluster.sources_integration {c c' : Cluster}
    (h : c'.integrations name = c.integrations name) :
    c'.sources (.getIntegration name) = c.sources (.getIntegration name) := by
  simp only [Cluster.sources, h]

theorem Cluster.sources_secret {c c' : Cluster} (h : c'.secrets name = c.secrets name) :
    c'.sources (.getSecret name) = c.sources (.getSecret name) := by
  simp only [Cluster.sources, h]

variable (h : L.Tracked site)

include h

theorem Ledger.Tracked.indexed {index : IndexName} {ref key : NamespacedName}
    (hkey : key ∈ (site.watcher.index index).byKey ref) :
    ∃ trigger, site.cluster.triggers key = some trigger := by
  cases htrigger : site.cluster.triggers key with
  | some trigger => exact ⟨trigger, rfl⟩
  | none =>
    have href := ((site.watcher.index index).coherent ref key).mp hkey
    rw [← Watcher.refs_entry, h.absent key htrigger] at href
    cases index <;> cases href

theorem Ledger.Tracked.change {index : IndexName} {ref : NamespacedName}
    (htriggers : site'.cluster.triggers = site.cluster.triggers)
    (hadmits : ∀ key trigger, key ∈ (site.watcher.index index).byKey ref →
      site.cluster.triggers key = some trigger →
      L.Admits site'.cluster.sources trigger (site.watcher.subscriptions key))
    (hothers : ∀ key trigger, key ∉ (site.watcher.index index).byKey ref →
      site.cluster.triggers key = some trigger →
      L.Settled site'.cluster.sources trigger (site.watcher.entry key))
    (hrun : Completes (Connected site'.cluster.sources) site.watcher (handleChange B index ref)
      site'.watcher ()) :
    L.Tracked site' := by
  obtain ⟨affected, w₁, ⟨⟨hperm, hw₁⟩, _⟩, hloop⟩ := completes_request.mp hrun
  rw [hw₁] at hloop
  have hknown : ∀ key trigger, site.cluster.triggers key = some trigger →
      site.watcher.triggers key = some trigger := fun key trigger htrigger =>
    (h.settled key trigger htrigger).known
  obtain ⟨hcoherent, hframe, hdone⟩ :=
    L.reprocessed (hperm.nodup_iff.mpr ((site.watcher.index index).nodup ref)) h.coherent
      (by
        intro key hkey
        obtain ⟨trigger, htrigger⟩ := h.indexed (hperm.mem_iff.mp hkey)
        exact ⟨trigger, hknown key trigger htrigger, site.cluster.keyed key trigger htrigger,
          hadmits key trigger (hperm.mem_iff.mp hkey) htrigger⟩)
      hloop
  refine ⟨hcoherent, ?_, ?_⟩
  · intro key hnone
    rw [htriggers] at hnone
    have hout : key ∉ affected := by
      intro hkey
      obtain ⟨trigger, htrigger⟩ := h.indexed (hperm.mem_iff.mp hkey)
      rw [htrigger] at hnone
      cases hnone
    rw [hframe key hout]
    exact h.absent key hnone
  · intro key trigger htrigger
    rw [htriggers] at htrigger
    by_cases hkey : key ∈ affected
    · exact hdone key hkey trigger (hknown key trigger htrigger)
    · rw [hframe key hkey]
      exact hothers key trigger (fun hmem => hkey (hperm.mem_iff.mpr hmem)) htrigger

theorem Ledger.Tracked.made {key : NamespacedName}
    {sub : Subscription B.Remembered B.Config} (hsub : site.watcher.subscriptions key = some sub) :
    L.Made key sub := by
  cases htrigger : site.cluster.triggers key with
  | some trigger =>
    rw [← site.cluster.keyed key trigger htrigger]
    exact (h.settled key trigger htrigger).made sub hsub
  | none =>
    have hnone : site.watcher.subscriptions key = none :=
      congrArg Entry.subscription (h.absent key htrigger)
    rw [hnone] at hsub
    cases hsub

theorem Ledger.Tracked.admits {change : Change} {key : NamespacedName}
    {trigger : Trigger} (hhandled : L.Handled site change site') (hnoticed : L.Noticed site change)
    (hkey : change.Reconsiders site.watcher key)
    (htrigger : site'.cluster.triggers key = some trigger) :
    L.Admits site'.cluster.sources trigger (site.watcher.subscriptions key) where
  made _ hsub := site'.cluster.keyed key trigger htrigger ▸ h.made hsub
  readable watch hwatch := hhandled.2.2 key trigger watch hkey htrigger hwatch
  notices watch sub hwatch hsub := by
    rw [hhandled.1] at htrigger ⊢
    exact hnoticed key trigger watch sub hkey htrigger hwatch hsub

theorem Ledger.Tracked.touched {key : NamespacedName} {trigger : Option Trigger}
    {e : Entry B} (hsources : site'.cluster.sources = site.cluster.sources)
    (htriggers : site'.cluster.triggers = update site.cluster.triggers key trigger)
    (htouches : site.watcher.Touches key e site'.watcher) (habsent : trigger = none → e = .absent B)
    (hsettled : ∀ t, trigger = some t → L.Settled site.cluster.sources t e) : L.Tracked site' := by
  refine ⟨htouches.coherent, fun k hnone => ?_, fun k t ht => ?_⟩
  · rw [htriggers, update_apply] at hnone
    split at hnone
    next hk => rw [hk, htouches.self, habsent hnone]
    next hk => rw [htouches.others k hk, h.absent k hnone]
  · rw [htriggers, update_apply] at ht
    rw [hsources]
    split at ht
    next hk => exact hk ▸ htouches.self.symm ▸ hsettled t ht
    next hk => exact htouches.others k hk ▸ h.settled k t ht

theorem Ledger.Tracked.setTrigger {trigger : Trigger}
    (hhandled : L.Handled site (.setTrigger trigger) site')
    (hnoticed : L.Noticed site (.setTrigger trigger)) : L.Tracked site' := by
  obtain ⟨hcluster, hrun, -⟩ := id hhandled
  have hsources : site'.cluster.sources = site.cluster.sources := hcluster ▸ rfl
  have htriggers : site'.cluster.triggers =
      update site.cluster.triggers trigger.key (some trigger) := hcluster ▸ rfl
  have hself : site'.cluster.triggers trigger.key = some trigger := by
    rw [htriggers, update_self]
  have hreconciled := L.reconciled h.coherent (h.admits hhandled hnoticed rfl hself) hrun
  refine h.touched hsources htriggers
    (Watcher.touches_of hreconciled.coherent rfl hreconciled.others) nofun ?_
  rintro _ ⟨⟩
  exact hsources ▸ hreconciled.settled

theorem Ledger.Tracked.deleteTrigger {trigger : Trigger}
    (hhandled : L.Handled site (.deleteTrigger trigger) site') : L.Tracked site' := by
  obtain ⟨hcluster, hrun, -⟩ := hhandled
  have htriggers : site'.cluster.triggers =
      update site.cluster.triggers trigger.key none := hcluster ▸ rfl
  exact h.touched (by rw [hcluster]; rfl) htriggers (completes_onTriggerDelete h.coherent hrun)
    (fun _ => rfl) fun _ hsome => by cases hsome

theorem Ledger.Tracked.setIntegration {integration : Integration}
    (hhandled : L.Handled site (.setIntegration integration) site')
    (hnoticed : L.Noticed site (.setIntegration integration)) : L.Tracked site' := by
  obtain ⟨hcluster, hrun, -⟩ := id hhandled
  have htriggers : site'.cluster.triggers = site.cluster.triggers := hcluster ▸ rfl
  refine h.change htriggers ?_ ?_ hrun
  · intro key trigger hkey htrigger
    exact h.admits hhandled hnoticed hkey (htriggers ▸ htrigger)
  · intro key trigger hkey htrigger
    have hsettled := h.settled key trigger htrigger
    refine hsettled.transfer ?_ ?_
    · intro watch integration' hwatch hread
      have hne : B.integrationKey trigger watch ≠ integration.name := by
        intro heq
        refine hkey (((site.watcher.index .integrations).coherent integration.name key).mpr ?_)
        have hindex : (site.watcher.index .integrations).byObject key = [_] :=
          hsettled.indexed watch hwatch
        rw [hindex, heq]
        exact List.mem_cons_self
      rw [← hread, hcluster]
      exact (Cluster.sources_integration (update_of_ne hne ..)).symm
    · intro ref _ data hread
      rw [← hread, hcluster]
      rfl

theorem Ledger.Tracked.setSecret {data : StringMap String}
    (hhandled : L.Handled site (.setSecret name data) site')
    (hnoticed : L.Noticed site (.setSecret name data)) : L.Tracked site' := by
  obtain ⟨hcluster, hrun, -⟩ := id hhandled
  have htriggers : site'.cluster.triggers = site.cluster.triggers := hcluster ▸ rfl
  refine h.change htriggers ?_ ?_ hrun
  · intro key trigger hkey htrigger
    exact h.admits hhandled hnoticed hkey (htriggers ▸ htrigger)
  · intro key trigger hkey htrigger
    refine (h.settled key trigger htrigger).transfer ?_ ?_
    · intro watch integration hwatch hread
      rw [← hread, hcluster]
      rfl
    · intro ref href data' hread
      have hne : ref ≠ name := by
        rintro rfl
        exact hkey (((site.watcher.index .secrets).coherent ref key).mpr href)
      rw [← hread, hcluster]
      exact (Cluster.sources_secret (update_of_ne hne ..)).symm

theorem Ledger.Tracked.vanish
    (htriggers : site'.cluster.triggers = site.cluster.triggers)
    (hwatcher : site'.watcher = site.watcher)
    (hintegrations : ∀ name integration, site'.cluster.sources (.getIntegration name) = .ok integration →
      site.cluster.sources (.getIntegration name) = .ok integration)
    (hsecrets : ∀ name data, site'.cluster.sources (.getSecret name) = .ok data →
      site.cluster.sources (.getSecret name) = .ok data) : L.Tracked site' := by
  refine ⟨?_, ?_, ?_⟩
  · rw [hwatcher]
    exact h.coherent
  · rw [hwatcher, htriggers]
    exact h.absent
  · rw [hwatcher, htriggers]
    intro key trigger htrigger
    exact (h.settled key trigger htrigger).transfer (fun _ _ _ => hintegrations _ _)
      fun name _ => hsecrets name

theorem Ledger.Tracked.deleteIntegration
    (hhandled : L.Handled site (.deleteIntegration name) site') : L.Tracked site' := by
  obtain ⟨hcluster, hrun, -⟩ := hhandled
  refine h.vanish (hcluster ▸ rfl) (completes_return.mp hrun).1 ?_ ?_
  · intro name' integration hread
    by_cases hne : name' = name
    · subst hne
      rw [hcluster] at hread
      simp [Cluster.sources, Cluster.apply, Cluster.setIntegration] at hread
    · rw [← hread, hcluster]
      exact (Cluster.sources_integration (update_of_ne hne ..)).symm
  · intro name' data hread
    rw [← hread, hcluster]
    rfl

theorem Ledger.Tracked.deleteSecret
    (hhandled : L.Handled site (.deleteSecret name) site') : L.Tracked site' := by
  obtain ⟨hcluster, hrun, -⟩ := hhandled
  refine h.vanish (hcluster ▸ rfl) (completes_return.mp hrun).1 ?_ ?_
  · intro name' integration hread
    rw [← hread, hcluster]
    rfl
  · intro name' data hread
    by_cases hne : name' = name
    · subst hne
      rw [hcluster] at hread
      simp [Cluster.sources, Cluster.apply] at hread
    · rw [← hread, hcluster]
      exact (Cluster.sources_secret (update_of_ne hne ..)).symm

theorem Ledger.Tracked.step {change : Change}
    (hhandled : L.Handled site change site') (hnoticed : L.Noticed site change) :
    L.Tracked site' := by
  cases change with
  | setTrigger trigger => exact h.setTrigger hhandled hnoticed
  | deleteTrigger trigger => exact h.deleteTrigger hhandled
  | setIntegration integration => exact h.setIntegration hhandled hnoticed
  | deleteIntegration name => exact h.deleteIntegration hhandled
  | setSecret name data => exact h.setSecret hhandled hnoticed
  | deleteSecret name => exact h.deleteSecret hhandled

theorem Ledger.Tracked.current : L.Current site := by
  intro key trigger watch htrigger hwatch hreadable config
  obtain ⟨integration, hintegration, hcredentials⟩ := hreadable
  have hfits := (h.settled key trigger htrigger).fits watch integration hwatch hintegration
  rw [h.coherent.runs_iff]
  unfold Ledger.expected
  rw [hintegration]
  dsimp only
  cases hspec : B.spec integration with
  | none =>
    rw [hspec] at hfits
    have hnone : site.watcher.subscriptions key = none := hfits
    rw [hnone]
    rfl
  | some spec =>
    rw [hspec] at hfits
    dsimp only
    by_cases hcomplete : L.complete spec = true
    · simp only [Ledger.Fits, if_pos hcomplete] at hfits
      obtain ⟨creds, hcreds⟩ := hcredentials spec hspec hcomplete
      rw [hcreds]
      dsimp only
      rw [← hfits.2 creds hcreds]
      rfl
    · simp only [Ledger.Fits, if_neg hcomplete] at hfits
      obtain ⟨creds, err, herr⟩ :=
        L.incomplete (by simpa using hcomplete) site.cluster.sources trigger.key.namespace_
      have hnone : site.watcher.subscriptions key = none := hfits
      rw [herr, hnone]
      rfl

end Histories

/-- For every broker and every history of changes, each handled to its end with all reads
and connections succeeding and each noticed by the fields that are compared, what runs
for an enabled Trigger is what `startSubscription` builds from the present Trigger,
Integration and Secrets. -/
theorem subscriptions_current (lib : WatcherLib) (type : BrokerType) {history : List Change}
    {site : Site (type.broker lib)}
    (hrun : Run (fun site change site' => (type.ledger lib).Handled site change site' ∧
      (type.ledger lib).Noticed site change) (Site.start (type.broker lib)) history site) :
    (type.ledger lib).Current site :=
  (hrun.always (type.ledger lib).Tracked (type.ledger lib).tracked_start
    fun _ _ _ htracked hstep => htracked.step hstep.1 hstep.2).current

/-! ## A topic and a Flow are edited -/

section Orders

variable {B : Broker}

theorem Req.answer_connected (s : Sources) (w : Watcher B) (q : Req B.Remembered B.Config) :
    Connected s w q (Req.answer s w q).1 (Req.answer s w q).2 := by
  refine ⟨Req.answer_env s w q, ?_⟩
  cases q <;> first | rfl | trivial

def Site.handle (site : Site B) (change : Change) : Site B where
  cluster := site.cluster.apply change
  watcher := ((change.handle B).simulate
    (fun w q => some (Req.answer (site.cluster.apply change).sources w q)) site.watcher).2.1

theorem Site.handle_completes (site : Site B) (change : Change) :
    Completes (Connected (site.handle change).cluster.sources) site.watcher (change.handle B)
      (site.handle change).watcher () :=
  completes_simulate (Req.answer_connected _) ..

def ordersTrigger (topic flow : String) : Trigger where
  metadata := { name := ⟨"default", "orders"⟩ }
  spec :=
    { type := .kafka
      enabled := true
      flowRef := flow
      kafka := some { integrationRef := "broker", topic := topic } }

def ordersIntegration : Integration where
  name := ⟨"default", "broker"⟩
  type := .kafka
  kafka := some { bootstrapServers := ["kafka:9092"] }

def ordersSite (changes : List Change) : Site (kafkaBroker default) :=
  changes.foldl Site.handle (Site.start _)

theorem orders_readable {s : Sources} {topic flow : String} {watch : KafkaWatch}
    (hs : s (.getIntegration ⟨"default", "broker"⟩) = .ok ordersIntegration)
    (hwatch : kafkaWatch (ordersTrigger topic flow) = some watch) :
    (kafkaLedger default).Readable s (ordersTrigger topic flow) watch := by
  cases hwatch
  refine ⟨ordersIntegration, hs, fun spec hspec _ => ?_⟩
  cases hspec
  exact ⟨_, rfl⟩

theorem orders_handled {site : Site (kafkaBroker default)} {topic flow : String}
    (hs : site.cluster.sources (.getIntegration ⟨"default", "broker"⟩) = .ok ordersIntegration) :
    (kafkaLedger default).Handled site (.setTrigger (ordersTrigger topic flow))
      (site.handle (.setTrigger (ordersTrigger topic flow))) := by
  refine ⟨rfl, site.handle_completes _, ?_⟩
  intro key trigger watch hkey htrigger hwatch
  have hkey : key = ⟨"default", "orders"⟩ := hkey
  subst hkey
  have htrigger : some (ordersTrigger topic flow) = some trigger := by
    rw [← htrigger]
    exact (update_self (⟨"default", "orders"⟩ : NamespacedName)
      (some (ordersTrigger topic flow)) site.cluster.triggers).symm
  cases htrigger
  exact orders_readable hs hwatch

theorem orders_first :
    (kafkaLedger default).Handled (Site.start _) (.setIntegration ordersIntegration)
      (ordersSite [.setIntegration ordersIntegration]) := by
  refine ⟨rfl, (Site.start _).handle_completes _, ?_⟩
  intro key trigger watch hkey
  cases hkey

def ordersKey : NamespacedName := ⟨"default", "orders"⟩

def ordersConfig (topic flow : String) : KafkaConfig where
  bootstrapServers := ["kafka:9092"]
  groupID := "kubezap-orders"
  topic := topic
  tls := none
  sasl := none
  handler := ⟨"orders", "default", flow⟩

/-- A Trigger is edited to another topic and another Flow: the subscription is replaced. -/
theorem subscriptions_current_orders :
    (ordersSite [.setIntegration ordersIntegration,
        .setTrigger (ordersTrigger "orders" "intake"),
        .setTrigger (ordersTrigger "returns" "audit")]).watcher.Runs ordersKey
      (ordersConfig "returns" "audit") := by
  have hfirst : (kafkaLedger default).Noticed (Site.start _) (.setIntegration ordersIntegration) := by
    intro key trigger watch sub hkey
    cases hkey
  have hsecond : (kafkaLedger default).Noticed (ordersSite [.setIntegration ordersIntegration])
      (.setTrigger (ordersTrigger "orders" "intake")) := by
    intro key trigger watch sub hkey _ _ hsub
    cases hsub
  have hthird : (kafkaLedger default).Noticed (ordersSite [.setIntegration ordersIntegration,
      .setTrigger (ordersTrigger "orders" "intake")])
      (.setTrigger (ordersTrigger "returns" "audit")) := by
    intro key trigger watch sub hkey htrigger hwatch hsub
    have hkey : key = ordersKey := hkey
    subst hkey
    have htrigger : some (ordersTrigger "returns" "audit") = some trigger := htrigger
    cases htrigger
    cases hwatch
    have hsub : some ⟨0, ordersKey, ⟨"broker", "orders", "kubezap-orders", ""⟩,
        ordersConfig "orders" "intake"⟩ = some sub := hsub
    cases hsub
    exact ⟨ordersIntegration, _, _, rfl, rfl, rfl, fun hsame => absurd hsame (by decide)⟩
  have hrun : Run (fun site change site' => (kafkaLedger default).Handled site change site' ∧
      (kafkaLedger default).Noticed site change) (Site.start (kafkaBroker default))
      ((([] ++ [.setIntegration ordersIntegration]) ++
        [.setTrigger (ordersTrigger "orders" "intake")]) ++
        [.setTrigger (ordersTrigger "returns" "audit")])
      (ordersSite [.setIntegration ordersIntegration, .setTrigger (ordersTrigger "orders" "intake"),
        .setTrigger (ordersTrigger "returns" "audit")]) :=
    ((Run.nil.snoc ⟨orders_first, hfirst⟩).snoc ⟨orders_handled rfl, hsecond⟩).snoc
      ⟨orders_handled rfl, hthird⟩
  exact (subscriptions_current default .kafka hrun ordersKey
    (ordersTrigger "returns" "audit") _ rfl rfl (orders_readable rfl rfl) _).mpr rfl

/-- Only the Flow is edited: messages still go to the Flow that the Trigger named before. -/
theorem flow_edit_unnoticed :
    ∃ (history : List Change) (site : Site (kafkaBroker default)),
      Run (kafkaLedger default).Handled (Site.start (kafkaBroker default)) history site ∧
      site.cluster.triggers ordersKey = some (ordersTrigger "orders" "audit") ∧
      site.watcher.Runs ordersKey (ordersConfig "orders" "intake") ∧
      ¬ (kafkaLedger default).Current site := by
  have hruns : (ordersSite [.setIntegration ordersIntegration,
      .setTrigger (ordersTrigger "orders" "intake"),
      .setTrigger (ordersTrigger "orders" "audit")]).watcher.Runs ordersKey
        (ordersConfig "orders" "intake") :=
    ⟨_, List.mem_cons_self, rfl, rfl⟩
  refine ⟨(([] ++ [.setIntegration ordersIntegration]) ++
      [.setTrigger (ordersTrigger "orders" "intake")]) ++
      [.setTrigger (ordersTrigger "orders" "audit")], _,
    ((Run.nil.snoc orders_first).snoc (orders_handled rfl)).snoc (orders_handled rfl), rfl, hruns, ?_⟩
  intro hcurrent
  have hexpected := (hcurrent ordersKey (ordersTrigger "orders" "audit") _ rfl rfl
    (orders_readable rfl rfl) (ordersConfig "orders" "intake")).mp hruns
  exact absurd hexpected (by decide +kernel)

end Orders

end KubeZap.Gateway
