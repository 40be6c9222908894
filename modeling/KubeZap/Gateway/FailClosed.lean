import KubeZap.Gateway.Handler
import KubeZap.Gateway.RouteTable

/-! # Routes whose authentication cannot be built

A Trigger whose latest build failed is to be served to nobody until a later build
succeeds. The handler of a failed build leaves the registry as it is, so this is a
statement about what earlier builds left there.
-/

namespace KubeZap

open Foundation Function

/-! ## Reconfigurations -/

/-- What an informer reports: an event of a Trigger, or a Secret that was added or
changed. No handler is called when a Secret is deleted. -/
inductive Report
  | trigger (event : TriggerEvent)
  | secret (key : NamespacedName)

structure Reconfiguration where
  report : Report
  sources : Sources

def Report.handle (lib : GoLib) : Report → WatchProgram Unit
  | .trigger event => event.handle lib
  | .secret key => handleSecretChange lib key

/-- The object of Trigger `key` that the handler of the report processes, if any. -/
def Report.processed (w : WatcherState) (key : NamespacedName) : Report → Option Trigger
  | .trigger (.upsert object) => if key = object.key then some object else none
  | .trigger (.delete _) => none
  | .secret secretKey => if key ∈ w.secretIndex.byKey secretKey then w.triggers key else none

/-- What the handler's build of Trigger `key` gives: `none` if it builds nothing for it. -/
def Reconfiguration.built (lib : GoLib) (w : WatcherState) (c : Reconfiguration)
    (key : NamespacedName) : Option (Except String RouteEntry) :=
  (c.report.processed w key).bind (·.build lib c.sources)

structure Audit where
  watcher : WatcherState
  failing : NamespacedName → Bool

def Audit.start (sources : Sources) : Audit := ⟨.start sources, fun _ => false⟩

/-- A Trigger is failing from a failed build to the next successful one. -/
def Audit.note (lib : GoLib) (a : Audit) (c : Reconfiguration) (key : NamespacedName) : Bool :=
  match c.built lib a.watcher key with
  | some (.error _) => true
  | some (.ok _) => false
  | none => a.failing key

def Reconfigured (lib : GoLib) (a : Audit) (c : Reconfiguration) (a' : Audit) : Prop :=
  Completes WatchReq.env { a.watcher with sources := c.sources } (c.report.handle lib) a'.watcher
    () ∧ a'.failing = a.note lib c

/-! ## Routes of one Trigger -/

def RouteRegistry.Without (r : RouteRegistry) (key : NamespacedName) : Prop :=
  ∀ path entry, r.routes path = some entry → entry.trigger ≠ key

variable {key : NamespacedName}

theorem RouteRegistry.Without.deregister {r : RouteRegistry} (h : r.Without key)
    (path : String) : (r.deregister path).Without key := by
  intro p entry hp
  rw [RouteRegistry.routes_deregister, update_apply] at hp
  split at hp
  · cases hp
  · exact h p entry hp

theorem RouteRegistry.Without.register {r : RouteRegistry} {entry : RouteEntry} (h : r.Without key)
    (path : String) (hentry : entry.trigger ≠ key) : (r.register path entry).Without key := by
  intro p e hp
  rw [RouteRegistry.routes_register, update_apply] at hp
  split at hp
  · cases hp
    exact hentry
  · exact h p e hp

variable {lib : GoLib} {w : WatcherState}

theorem RouteRegistry.Without.handled {trigger : Trigger} (h : w.registry.Without key)
    (hbuild : trigger.key = key → ∀ entry, trigger.build lib w.sources ≠ some (.ok entry)) :
    (w.handled lib trigger).registry.Without key := by
  change (w.registry.install _ _).Without key
  cases hb : trigger.build lib w.sources with
  | none => exact h.deregister _
  | some built =>
    cases built with
    | error err => exact h
    | ok entry =>
      refine h.register _ ?_
      rw [build_trigger hb]
      exact fun heq => hbuild heq entry hb

/-! ## Replays -/

def WatcherState.Keyed (w : WatcherState) : Prop :=
  ∀ key trigger, w.triggers key = some trigger → trigger.key = key

theorem WatcherState.Keyed.handled (h : w.Keyed)
    (trigger : Trigger) : (w.handled lib trigger).Keyed := by
  intro key t ht
  simp only [WatcherState.handled, update_apply] at ht
  split at ht
  next hk =>
    cases ht
    exact hk.symm
  · exact h key t ht

theorem WatcherState.Keyed.deleted (h : w.Keyed) (trigger : Trigger) :
    (w.deleted trigger).Keyed := by
  intro key t ht
  simp only [WatcherState.deleted, update_apply] at ht
  split at ht
  · cases ht
  · exact h key t ht

theorem replayed_triggers (h : w.Keyed) (key : NamespacedName) :
    (w.replayed lib key).triggers = w.triggers := by
  unfold WatcherState.replayed
  split
  · rfl
  next trigger ht =>
    have hkey := h key trigger ht
    simp only [WatcherState.handled, hkey]
    rw [← ht, update_eq_self]

theorem replayed_sources (key : NamespacedName) : (w.replayed lib key).sources = w.sources := by
  unfold WatcherState.replayed
  split <;> rfl

theorem replays_triggers (h : w.Keyed) (affected : List NamespacedName) :
    (affected.foldl (WatcherState.replayed lib) w).triggers = w.triggers := by
  refine List.foldlRecOn (motive := (WatcherState.triggers · = w.triggers)) affected _ rfl ?_
  intro w' hsame key _
  have hkeyed : w'.Keyed := fun k t ht => h k t (hsame ▸ ht)
  rw [replayed_triggers hkeyed, hsame]

theorem RouteRegistry.Without.replays (hkeyed : w.Keyed) (affected : List NamespacedName)
    (h : w.registry.Without key)
    (hbuild : key ∈ affected → ∀ trigger, w.triggers key = some trigger →
      ∀ entry, trigger.build lib w.sources ≠ some (.ok entry)) :
    (affected.foldl (WatcherState.replayed lib) w).registry.Without key := by
  induction affected generalizing w with
  | nil => exact h
  | cons first affected ih =>
    have hnext : (w.replayed lib first).Keyed := by
      intro k t ht
      rw [replayed_triggers hkeyed] at ht
      exact hkeyed k t ht
    rw [List.foldl_cons]
    refine ih hnext ?_ ?_
    · unfold WatcherState.replayed
      split
      · exact h
      next trigger ht =>
        refine h.handled ?_
        intro heq
        have hfirst := hkeyed first trigger ht
        obtain rfl : first = key := hfirst.symm.trans heq
        exact hbuild (by simp) trigger ht
    · intro hmem trigger ht
      rw [replayed_triggers hkeyed] at ht
      rw [replayed_sources]
      exact hbuild (by simp [hmem]) trigger ht

/-! ## One reconfiguration -/

/-- A failed build meets no route that an earlier build left for the Trigger. -/
def Clean (lib : GoLib) (a : Audit) (c : Reconfiguration) : Prop :=
  ∀ key err, c.built lib a.watcher key = some (.error err) → a.watcher.registry.Without key

theorem Reconfigured.without {a a' : Audit} {c : Reconfiguration} (hstep : Reconfigured lib a c a')
    (hkeyed : a.watcher.Keyed) (h : a.watcher.registry.Without key)
    (hbuilt : ∀ entry, c.built lib a.watcher key ≠ some (.ok entry)) :
    a'.watcher.registry.Without key := by
  obtain ⟨report, sources⟩ := c
  have hrun := hstep.1
  cases report with
  | trigger event =>
    cases event with
    | upsert object =>
      rw [completes_handleTrigger.mp hrun]
      refine RouteRegistry.Without.handled (w := { a.watcher with sources := sources }) h ?_
      rintro rfl entry heq
      exact hbuilt entry (by simpa [Reconfiguration.built, Report.processed] using heq)
    | delete object =>
      rw [completes_handleDelete.mp hrun]
      exact h.deregister _
  | secret secretKey =>
    obtain ⟨affected, hperm, hw⟩ := completes_handleSecretChange.mp hrun
    rw [hw]
    refine RouteRegistry.Without.replays (w := { a.watcher with sources := sources }) hkeyed
      affected h ?_
    intro hmem trigger ht entry heq
    refine hbuilt entry ?_
    simp only [Reconfiguration.built, Report.processed]
    rw [if_pos (hperm.mem_iff.mp hmem), ht]
    exact heq

theorem Reconfigured.keyed {a a' : Audit} {c : Reconfiguration} (hstep : Reconfigured lib a c a')
    (h : a.watcher.Keyed) : a'.watcher.Keyed := by
  obtain ⟨report, sources⟩ := c
  have hrun := hstep.1
  have hsame : WatcherState.Keyed { a.watcher with sources := sources } := h
  cases report with
  | trigger event =>
    cases event with
    | upsert object =>
      rw [completes_handleTrigger.mp hrun]
      exact hsame.handled object
    | delete object =>
      rw [completes_handleDelete.mp hrun]
      exact hsame.deleted object
  | secret secretKey =>
    obtain ⟨affected, -, hw⟩ := completes_handleSecretChange.mp hrun
    intro key trigger ht
    rw [hw, replays_triggers hsame] at ht
    exact h key trigger ht

theorem Reconfigured.closed {a a' : Audit} {c : Reconfiguration} (hstep : Reconfigured lib a c a')
    (hclean : Clean lib a c) (hkeyed : a.watcher.Keyed)
    (h : ∀ key, a.failing key = true → a.watcher.registry.Without key) :
    ∀ key, a'.failing key = true → a'.watcher.registry.Without key := by
  intro key hfail
  rw [hstep.2, Audit.note] at hfail
  cases hb : c.built lib a.watcher key with
  | none =>
    rw [hb] at hfail
    exact hstep.without hkeyed (h key hfail) (by simp [hb])
  | some built =>
    cases built with
    | error err => exact hstep.without hkeyed (hclean key err hb) (by simp [hb])
    | ok entry =>
      rw [hb] at hfail
      cases hfail

/-! ## Every sequence of reconfigurations -/

/-- The answer accepts a request on behalf of Trigger `key`. -/
def Served.AcceptedFor (s : Served) (key : NamespacedName) : Prop :=
  s.response.status = 202 ∧ ∃ flowRun, s.flowRun = some flowRun ∧
    flowRun.metadata.name.namespace_ = key.namespace_ ∧
    flowRun.spec.triggerRef = some ⟨key.name, .webhook⟩

theorem RouteRegistry.Without.not_accepted {r : RouteRegistry} (h : r.Without key) (lib : HttpLib)
    (handler : WebhookHandler) (ct : CooldownTracker)
    (x : Exchange) : ¬ (serveHTTP lib handler r ct x).AcceptedFor key := by
  rintro ⟨-, flowRun, hrun, hns, hname⟩
  obtain ⟨entry, body, hscreen, rfl⟩ := serveHTTP_screened hrun
  refine h _ entry (screen_ok hscreen) ?_
  have htrigger : entry.triggerName = key.name := by
    simpa [webhookFlowRun, triggeredFlowRun] using hname
  have hnamespace : entry.triggerNamespace = key.namespace_ := hns
  rw [RouteEntry.trigger, htrigger, hnamespace]

/-- In every sequence of reports in which a failed build meets no earlier route of its
Trigger, a Trigger whose latest build failed has no request accepted on its behalf,
under whatever path it comes. -/
theorem failed_build_serves_nobody {lib : GoLib} {sources : Sources} {cs : List Reconfiguration}
    {a : Audit}
    (hrun : Run (fun a c a' => Clean lib a c ∧ Reconfigured lib a c a') (.start sources) cs a)
    {key : NamespacedName} (hfail : a.failing key = true) (httpLib : HttpLib)
    (handler : WebhookHandler) (ct : CooldownTracker) (x : Exchange) :
    ¬ (serveHTTP httpLib handler a.watcher.registry ct x).AcceptedFor key := by
  obtain ⟨-, hclosed⟩ := hrun.always (fun a => a.watcher.Keyed ∧
    ∀ key, a.failing key = true → a.watcher.registry.Without key)
    ⟨fun _ _ ht => (by cases ht), fun _ hf => by cases hf⟩ (by
      rintro a c a' ⟨hkeyed, hclosed⟩ ⟨hclean, hstep⟩
      exact ⟨hstep.keyed hkeyed, hstep.closed hclean hkeyed hclosed⟩)
  exact (hclosed key hfail).not_accepted httpLib handler ct x

/-! ## One Trigger -/

theorem Reconfigured.upsert (lib : GoLib) (a : Audit) (object : Trigger) (sources : Sources) :
    Reconfigured lib a ⟨.trigger (.upsert object), sources⟩
      ⟨WatcherState.handled lib { a.watcher with sources := sources } object,
        a.note lib ⟨.trigger (.upsert object), sources⟩⟩ :=
  ⟨completes_handleTrigger.mpr rfl, rfl⟩

def bearerHook (path : String) : Trigger where
  metadata := { name := ⟨"team", "github"⟩ }
  spec :=
    { type := .webhook
      webhook := some
        { path := path
          auth := some { type := some .bearer, bearer := some ⟨⟨"github-token", "token"⟩⟩ } }
      flowRef := "build" }

/-- A Trigger that could never be built has no route. -/
theorem unbuilt_hook_refuses : ∃ a, Run
      (fun a c a' => Clean default a c ∧ Reconfigured default a c a') (.start offline)
      [⟨.trigger (.upsert (bearerHook "/hooks/github")), offline⟩] a ∧
    a.failing ⟨"team", "github"⟩ = true ∧
    ¬ (serveHTTP plainHttp {} a.watcher.registry .new
      (plainPost "/hooks/github" 0)).AcceptedFor ⟨"team", "github"⟩ := by
  have hclean : Clean default (.start offline)
      ⟨.trigger (.upsert (bearerHook "/hooks/github")), offline⟩ := by
    intro key err _ path entry h
    cases h
  have hrun : Run (fun a c a' => Clean default a c ∧ Reconfigured default a c a')
      (.start offline) [⟨.trigger (.upsert (bearerHook "/hooks/github")), offline⟩] _ :=
    .snoc .nil ⟨hclean, Reconfigured.upsert default _ _ _⟩
  exact ⟨_, hrun, rfl, failed_build_serves_nobody hrun rfl _ _ _ _⟩

/-- An open Trigger that is given a token it cannot read stays open. -/
theorem open_route_survives_failed_build : ∃ a, Run (Reconfigured default) (.start offline)
      [⟨.trigger (.upsert (openHook "/hooks/github")), offline⟩,
        ⟨.trigger (.upsert (bearerHook "/hooks/github")), offline⟩] a ∧
    a.failing ⟨"team", "github"⟩ = true ∧
    (serveHTTP plainHttp {} a.watcher.registry .new
      (plainPost "/hooks/github" 0)).AcceptedFor ⟨"team", "github"⟩ := by
  have hrun := Run.snoc (Run.snoc Run.nil
    (Reconfigured.upsert default (.start offline) (openHook "/hooks/github") offline))
    (Reconfigured.upsert default _ (bearerHook "/hooks/github") offline)
  refine ⟨_, hrun, rfl, ?_, ?_⟩
  · decide
  · exact ⟨_, rfl, rfl, rfl⟩

end KubeZap
