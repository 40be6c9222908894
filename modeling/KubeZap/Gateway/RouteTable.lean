import KubeZap.Foundation.Run
import KubeZap.Gateway.Watcher

/-! # The route table of a set of Triggers

What the registry is for: one route for every Trigger that is to be served, under
the normalised path that the Trigger declares, and no other. The handlers see one
object at a time and the registry is keyed by path, so this holds only as long as no
event moves a Trigger away from its path or removes the path of another one.
-/

namespace KubeZap

open Foundation Function

/-! ## Deliveries of the Trigger informer -/

/-- `upsert` is what `AddFunc` and `UpdateFunc` hand on. -/
inductive TriggerEvent
  | upsert (trigger : Trigger)
  | delete (trigger : Trigger)

def TriggerEvent.trigger : TriggerEvent → Trigger
  | .upsert trigger | .delete trigger => trigger

def TriggerEvent.stored : TriggerEvent → Option Trigger
  | .upsert trigger => some trigger
  | .delete _ => none

def TriggerEvent.handle (lib : GoLib) : TriggerEvent → WatchProgram Unit
  | .upsert trigger => handleTrigger lib trigger
  | .delete trigger => handleDelete trigger

structure Delivery where
  event : TriggerEvent
  sources : Sources

def Delivered (lib : GoLib) (w : WatcherState) (d : Delivery) (w' : WatcherState) : Prop :=
  Completes WatchReq.env { w with sources := d.sources } (d.event.handle lib) w' ()

def Delivery.route (lib : GoLib) (d : Delivery) (r : RouteRegistry) : RouteRegistry :=
  r.install (entryRoutePath d.event.trigger) (d.event.stored.bind (·.build lib d.sources))

variable {lib : GoLib} {d : Delivery}

theorem Delivered.registry {w w' : WatcherState}
    (h : Delivered lib w d w') : w'.registry = d.route lib w.registry := by
  obtain ⟨event, sources⟩ := d
  cases event with
  | upsert trigger =>
    rw [completes_handleTrigger.mp h]
    rfl
  | delete trigger =>
    rw [completes_handleDelete.mp h]
    rfl

theorem Delivered.total (lib : GoLib) (w : WatcherState) (d : Delivery) :
    ∃ w', Delivered lib w d w' := by
  obtain ⟨event, sources⟩ := d
  cases event with
  | upsert trigger => exact ⟨_, completes_handleTrigger.mpr rfl⟩
  | delete trigger => exact ⟨_, completes_handleDelete.mpr rfl⟩

/-! ## The Triggers that exist -/

/-- The current object of every Trigger, with the sources it was last built from. -/
abbrev Known := NamespacedName → Option (Trigger × Sources)

def Known.record (known : Known) (d : Delivery) : Known :=
  update known d.event.trigger.key (d.event.stored.map (·, d.sources))

def known (ds : List Delivery) : Known := ds.foldl Known.record (fun _ => none)

theorem known_snoc (ds : List Delivery) (d : Delivery) :
    known (ds ++ [d]) = (known ds).record d := by
  simp [known]

/-- The Trigger `key` is to be served: an enabled webhook Trigger with a webhook spec. -/
def Known.Serves (known : Known) (key : NamespacedName) (trigger : Trigger) (sources : Sources)
    (webhook : WebhookTrigger) : Prop :=
  known key = some (trigger, sources) ∧ trigger.servedWebhook = some webhook

def Known.Distinct (known : Known) : Prop :=
  ∀ key key' trigger trigger' sources sources' webhook webhook',
    known.Serves key trigger sources webhook → known.Serves key' trigger' sources' webhook' →
    normalizePath webhook.path = normalizePath webhook'.path → key = key'

/-- The registry is the table of the Triggers that are to be served. -/
structure Known.Refines (lib : GoLib) (known : Known) (r : RouteRegistry) : Prop where
  served : ∀ key trigger sources webhook, known.Serves key trigger sources webhook →
    ∃ entry, trigger.build lib sources = some (.ok entry) ∧
      r.routes (normalizePath webhook.path) = some entry
  only : ∀ path entry, r.routes path = some entry →
    ∃ key trigger sources webhook, known.Serves key trigger sources webhook ∧
      path = normalizePath webhook.path ∧ trigger.build lib sources = some (.ok entry)

/-! ## Paths of the registry -/

def routeKey (trigger : Trigger) : String := normalizePath (entryRoutePath trigger)

variable {webhook : WebhookTrigger}

/-- The key is the normalised path, unless the path is below `hooks/` without its
leading slash. -/
theorem routeKey_eq {trigger : Trigger} (hw : trigger.spec.webhook = some webhook)
    (hhooks : startsWith (trimSpace webhook.path) "hooks/" = false) :
    routeKey trigger = normalizePath webhook.path := by
  simp only [routeKey, entryRoutePath, hw]
  by_cases hempty : trimSpace webhook.path = ""
  · rw [if_pos hempty, ← normalizePath_trimSpace webhook.path, hempty]
  · rw [if_neg hempty]
    cases hslash : startsWith (trimSpace webhook.path) "/" with
    | false => exact normalizePath_slash hslash hhooks
    | true => exact normalizePath_trimSpace webhook.path

theorem build_eq_none {sources : Sources} {trigger : Trigger} :
    trigger.build lib sources = none ↔ trigger.servedWebhook = none := by
  simp [Trigger.build]

theorem Known.serves_record {known : Known} {key : NamespacedName} {trigger : Trigger}
    {sources : Sources} :
    (known.record d).Serves key trigger sources webhook ↔
      if key = d.event.trigger.key then
        d.event.stored = some trigger ∧ d.sources = sources ∧ trigger.servedWebhook = some webhook
      else known.Serves key trigger sources webhook := by
  by_cases hk : key = d.event.trigger.key
  · subst hk
    simp [Known.Serves, Known.record, and_assoc]
  · simp [Known.Serves, Known.record, hk]

/-! ## Events that keep the table -/

/-- What the sequence is assumed to be: a Trigger that is to be served can be built,
and the paths declared after the event are different. -/
structure Buildable (lib : GoLib) (before : List Delivery) (d : Delivery) : Prop where
  builds : ∀ err, d.event.stored.bind (·.build lib d.sources) ≠ some (.error err)
  distinct : (known (before ++ [d])).Distinct

/-- The event leaves every Trigger at its path: the path of a Trigger to be served is
not below `hooks/` without a leading slash, a Trigger that was served keeps its key,
and an event that takes a route away takes away that of no other Trigger. -/
structure InPlace (known : Known) (d : Delivery) : Prop where
  rooted : ∀ trigger webhook, d.event.stored = some trigger →
    trigger.servedWebhook = some webhook →
    startsWith (trimSpace webhook.path) "hooks/" = false
  stays : ∀ trigger sources webhook,
    known.Serves d.event.trigger.key trigger sources webhook →
    routeKey trigger = routeKey d.event.trigger
  clear : d.event.stored.bind Trigger.servedWebhook = none →
    ∀ key trigger sources webhook, key ≠ d.event.trigger.key →
      known.Serves key trigger sources webhook → routeKey trigger ≠ routeKey d.event.trigger

/-- Every Trigger to be served is registered under the path it declares. -/
def Known.Rooted (known : Known) : Prop :=
  ∀ key trigger sources webhook, known.Serves key trigger sources webhook →
    routeKey trigger = normalizePath webhook.path

theorem Known.Rooted.record {known : Known} (h : known.Rooted)
    (hd : InPlace known d) : (known.record d).Rooted := by
  intro key trigger sources webhook hs
  rw [Known.serves_record] at hs
  split at hs
  · obtain ⟨hstored, -, hweb⟩ := hs
    exact routeKey_eq (Option.ite_none_right_eq_some.mp hweb).2
      (hd.rooted trigger webhook hstored hweb)
  · exact h key trigger sources webhook hs

variable {r : RouteRegistry}

theorem Known.Refines.register {known : Known} {trigger : Trigger} {entry : RouteEntry}
    (h : known.Refines lib r) (hr : known.Rooted) (hd : InPlace known d)
    (hdistinct : (known.record d).Distinct) (hstored : d.event.stored = some trigger)
    (hbuild : trigger.build lib d.sources = some (.ok entry)) :
    (known.record d).Refines lib (r.register (entryRoutePath d.event.trigger) entry) := by
  obtain ⟨webhook, hweb, -⟩ := Option.map_eq_some_iff.mp hbuild
  have hkey : d.event.trigger = trigger := by
    cases he : d.event <;> simp_all [TriggerEvent.stored, TriggerEvent.trigger]
  have hself : (known.record d).Serves d.event.trigger.key trigger d.sources webhook := by
    rw [Known.serves_record, if_pos rfl]
    exact ⟨hstored, rfl, hweb⟩
  have hpath := hr.record hd _ _ _ _ hself
  rw [← hkey, routeKey] at hpath
  constructor
  · intro key trigger' sources' webhook' hs
    by_cases hk : key = d.event.trigger.key
    · rw [Known.serves_record, if_pos hk] at hs
      obtain ⟨hst, rfl, hw⟩ := hs
      obtain rfl : trigger = trigger' := Option.some.inj (hstored.symm.trans hst)
      obtain rfl : webhook = webhook' := Option.some.inj (hweb.symm.trans hw)
      exact ⟨entry, hbuild, by simp [hpath]⟩
    · have hne : normalizePath webhook'.path ≠ normalizePath webhook.path :=
        fun heq => hk (hdistinct _ _ _ _ _ _ _ _ hs hself heq)
      rw [Known.serves_record, if_neg hk] at hs
      obtain ⟨e, hb, hroute⟩ := h.served _ _ _ _ hs
      exact ⟨e, hb, by simp [hpath, hne, hroute]⟩
  · intro path e hroute
    rw [RouteRegistry.routes_register, hpath, update_apply] at hroute
    split at hroute
    next hp =>
      cases hroute
      exact ⟨_, _, _, _, hself, hp, hbuild⟩
    next hp =>
      obtain ⟨key, trigger', sources', webhook', hs, hp', hb⟩ := h.only _ _ hroute
      refine ⟨key, trigger', sources', webhook', ?_, hp', hb⟩
      rw [Known.serves_record, if_neg]
      · exact hs
      · -- The Trigger itself had its old route under the key that is now overwritten.
        rintro rfl
        apply hp
        rw [hp', ← hr _ _ _ _ hs, hd.stays _ _ _ hs, routeKey, hpath]

theorem Known.Refines.deregister {known : Known} (h : known.Refines lib r) (hr : known.Rooted)
    (hd : InPlace known d) (hnone : d.event.stored.bind Trigger.servedWebhook = none) :
    (known.record d).Refines lib (r.deregister (entryRoutePath d.event.trigger)) := by
  have hother : ∀ key trigger sources webhook,
      (known.record d).Serves key trigger sources webhook →
      key ≠ d.event.trigger.key ∧ known.Serves key trigger sources webhook := by
    intro key trigger sources webhook hs
    by_cases hk : key = d.event.trigger.key
    · rw [Known.serves_record, if_pos hk] at hs
      simp [hs.1, hs.2.2] at hnone
    · rw [Known.serves_record, if_neg hk] at hs
      exact ⟨hk, hs⟩
  constructor
  · intro key trigger sources webhook hs
    obtain ⟨hk, hs⟩ := hother _ _ _ _ hs
    obtain ⟨e, hb, hroute⟩ := h.served _ _ _ _ hs
    have hne := hd.clear hnone _ _ _ _ hk hs
    rw [hr _ _ _ _ hs, routeKey] at hne
    exact ⟨e, hb, by simp [hne, hroute]⟩
  · intro path e hroute
    rw [RouteRegistry.routes_deregister, update_apply] at hroute
    split at hroute
    · cases hroute
    next hp =>
      obtain ⟨key, trigger, sources, webhook, hs, hp', hb⟩ := h.only _ _ hroute
      refine ⟨key, trigger, sources, webhook, ?_, hp', hb⟩
      rw [Known.serves_record, if_neg]
      · exact hs
      · rintro rfl
        apply hp
        rw [hp', ← hr _ _ _ _ hs, hd.stays _ _ _ hs, routeKey]

theorem Known.Refines.route {before : List Delivery} (h : (known before).Refines lib r)
    (hr : (known before).Rooted) (hd : InPlace (known before) d) (hb : Buildable lib before d) :
    (known (before ++ [d])).Refines lib (d.route lib r) := by
  have hdistinct := hb.distinct
  rw [known_snoc] at hdistinct ⊢
  unfold Delivery.route
  cases hbuilt : d.event.stored.bind (·.build lib d.sources) with
  | none =>
    refine h.deregister hr hd ?_
    cases hst : d.event.stored with
    | none => rfl
    | some trigger =>
      rw [hst] at hbuilt
      exact build_eq_none.mp hbuilt
  | some built =>
    cases built with
    | error err => exact absurd hbuilt (hb.builds err)
    | ok entry =>
      obtain ⟨trigger, hst, hbuild⟩ := Option.bind_eq_some_iff.mp hbuilt
      exact h.register hr hd hdistinct hst hbuild

theorem Known.Refines.lookup_none {known : Known} (h : known.Refines lib r) {path : String}
    (hno : ∀ key trigger sources webhook, known.Serves key trigger sources webhook →
      normalizePath webhook.path ≠ normalizePath path) : r.lookup path = none := by
  cases hr : r.lookup path with
  | none => rfl
  | some entry =>
    obtain ⟨key, trigger, sources, webhook, hs, hp, -⟩ := h.only _ _ hr
    exact absurd hp.symm (hno key trigger sources webhook hs)

/-! ## Every sequence of events -/

section Runs

variable {lib : GoLib} {sources : Sources} {ds : List Delivery} {w : WatcherState}

theorem known_distinct (hb : Guarded (Buildable lib) ds) : (known ds).Distinct := by
  rcases List.eq_nil_or_concat ds with rfl | ⟨before, d, rfl⟩
  · intro key _ _ _ _ _ _ _ hs
    cases hs.1
  · rw [List.concat_eq_append] at hb ⊢
    exact hb.last.distinct

theorem table_run (hrun : Run (Delivered lib) (.start sources) ds w)
    (hb : Guarded (Buildable lib) ds) (hd : Guarded (fun before => InPlace (known before)) ds) :
    (known ds).Refines lib w.registry ∧ (known ds).Rooted := by
  refine hrun.invariant (hb.and hd)
    (fun before w => (known before).Refines lib w.registry ∧ (known before).Rooted) ?_ ?_
  · refine ⟨⟨?_, ?_⟩, ?_⟩
    · intro key _ _ _ hs
      cases hs.1
    · intro path entry h
      cases h
    · intro key _ _ _ hs
      cases hs.1
  · rintro before w d w' ⟨href, hroot⟩ ⟨hbuild, hset⟩ hdel
    rw [hdel.registry]
    refine ⟨href.route hroot hset hbuild, ?_⟩
    rw [known_snoc]
    exact hroot.record hset

/-- After every sequence of events that leave the Triggers at their paths, the
registry holds one route for every Trigger that is to be served, under the path it
declares and built from its current object, and routes no other path. -/
theorem routes_refine_triggers (hrun : Run (Delivered lib) (.start sources) ds w)
    (hb : Guarded (Buildable lib) ds) (hd : Guarded (fun before => InPlace (known before)) ds) :
    (known ds).Refines lib w.registry ∧ (known ds).Distinct ∧
      ∀ path, (∀ key trigger s webhook, (known ds).Serves key trigger s webhook →
        normalizePath webhook.path ≠ normalizePath path) → w.registry.lookup path = none := by
  have htable := (table_run hrun hb hd).1
  exact ⟨htable, known_distinct hb, fun path hno => htable.lookup_none hno⟩

end Runs

/-! ## Open hooks -/

def offline : Sources
  | .getSecret _ => .error "connection refused"
  | .getDiscovery _ => .unreachable "connection refused"
  | .registerJWKSURL _ => .failed "connection refused"

def openHook (path : String) (name : String := "github") : Trigger where
  metadata := { name := ⟨"team", name⟩ }
  spec := { type := .webhook, webhook := some { path := path }, flowRef := "build" }

theorem known_stored {ds : List Delivery} {key : NamespacedName} {trigger : Trigger}
    {sources : Sources} (h : (known ds).Serves key trigger sources webhook) :
    ∃ d ∈ ds, d.event.trigger = trigger ∧ trigger.key = key := by
  induction ds using List.reverseRecOn with
  | nil => cases h.1
  | append_singleton ds d ih =>
    rw [known_snoc, Known.serves_record] at h
    split at h
    next hkey =>
      refine ⟨d, by simp, ?_⟩
      obtain ⟨hstored, -⟩ := h
      cases hevent : d.event with
      | upsert t =>
        rw [hevent] at hstored hkey
        cases hstored
        exact ⟨rfl, hkey.symm⟩
      | delete t =>
        rw [hevent] at hstored
        cases hstored
    next =>
      obtain ⟨d', hmem, hd'⟩ := ih h
      exact ⟨d', List.mem_append_left _ hmem, hd'⟩

/-- The events are of open hooks with one of the paths and its name. -/
def OfHooks (hooks : List (String × String)) (ds : List Delivery) : Prop :=
  ∀ d ∈ ds, ∃ hook ∈ hooks, d.event.trigger = openHook hook.1 hook.2

section Hooks

variable {hooks : List (String × String)} {ds : List Delivery} (h : OfHooks hooks ds)

include h

theorem OfHooks.serves {key : NamespacedName} {trigger : Trigger} {sources : Sources}
    (hs : (known ds).Serves key trigger sources webhook) : ∃ hook ∈ hooks,
      trigger = openHook hook.1 hook.2 ∧ key = ⟨"team", hook.2⟩ ∧ webhook = { path := hook.1 } := by
  obtain ⟨d, hd, rfl, rfl⟩ := known_stored hs
  obtain ⟨hook, hmem, heq⟩ := h d hd
  have hweb := hs.2
  rw [heq] at hweb
  cases hweb
  exact ⟨hook, hmem, heq, by rw [heq]; rfl, rfl⟩

theorem OfHooks.buildable (hnames : ∀ a ∈ hooks, ∀ b ∈ hooks,
      normalizePath a.1 = normalizePath b.1 → a.2 = b.2) : Guarded (Buildable default) ds := by
  intro before d hpre
  have hbefore : OfHooks hooks (before ++ [d]) := fun d' hd' => h d' (hpre.subset hd')
  refine ⟨?_, ?_⟩
  · intro err
    obtain ⟨hook, -, heq⟩ := hbefore d (by simp)
    cases hevent : d.event with
    | upsert trigger =>
      rw [hevent] at heq
      obtain rfl : trigger = openHook hook.1 hook.2 := heq
      have hok : (openHook hook.1 hook.2).build default d.sources =
        some (.ok (openEntry (openHook hook.1 hook.2) { path := hook.1 })) := rfl
      rw [TriggerEvent.stored, Option.bind_some, hok]
      exact nofun
    | delete trigger => exact nofun
  · intro key key' trigger trigger' sources sources' webhook webhook' hs hs' hpath
    obtain ⟨a, ha, -, rfl, rfl⟩ := hbefore.serves hs
    obtain ⟨b, hb, -, rfl, rfl⟩ := hbefore.serves hs'
    rw [hnames a ha b hb hpath]

theorem OfHooks.inPlace
    (hrooted : ∀ hook ∈ hooks, startsWith (trimSpace hook.1) "hooks/" = false)
    (hkeys : ∀ a ∈ hooks, ∀ b ∈ hooks,
      routeKey (openHook a.1 a.2) = routeKey (openHook b.1 b.2) ↔ a.2 = b.2) :
    Guarded (fun before => InPlace (known before)) ds := by
  intro before d hpre
  have hbefore : OfHooks hooks before :=
    fun d' hd' => h d' (hpre.subset (List.mem_append_left _ hd'))
  obtain ⟨hook, hmem, heq⟩ := h d (hpre.subset (by simp))
  refine ⟨?_, ?_, ?_⟩
  · intro trigger webhook hstored hweb
    have hself : d.event.trigger = trigger := by
      cases hevent : d.event <;> simp_all [TriggerEvent.stored, TriggerEvent.trigger]
    rw [← hself, heq] at hweb
    cases hweb
    exact hrooted hook hmem
  · intro trigger sources webhook hs
    obtain ⟨a, ha, rfl, hkey, -⟩ := hbefore.serves hs
    rw [heq] at hkey ⊢
    exact (hkeys a ha hook hmem).mpr (congrArg NamespacedName.name hkey).symm
  · intro _ key trigger sources webhook hne hs hsame
    obtain ⟨a, ha, rfl, rfl, -⟩ := hbefore.serves hs
    rw [heq] at hne hsame
    exact hne (congrArg _ ((hkeys a ha hook hmem).mp hsame))

end Hooks

/-- Of two Triggers the first is deleted again. -/
def hookEvents : List Delivery :=
  [⟨.upsert (openHook "/hooks/github"), offline⟩,
    ⟨.upsert (openHook "/hooks/gitlab" "gitlab"), offline⟩,
    ⟨.delete (openHook "/hooks/github"), offline⟩]

theorem gitlab_routed : ∃ w, Run (Delivered default) (.start offline) hookEvents w ∧
    (known hookEvents).Refines default w.registry ∧
    (w.registry.lookup "/hooks/gitlab").isSome = true ∧
    w.registry.lookup "/hooks/github" = none := by
  obtain ⟨w₁, h₁⟩ := Delivered.total default (.start offline)
    ⟨.upsert (openHook "/hooks/github"), offline⟩
  obtain ⟨w₂, h₂⟩ := Delivered.total default w₁
    ⟨.upsert (openHook "/hooks/gitlab" "gitlab"), offline⟩
  obtain ⟨w, h₃⟩ := Delivered.total default w₂ ⟨.delete (openHook "/hooks/github"), offline⟩
  have hrun : Run (Delivered default) (.start offline) hookEvents w :=
    .snoc (.snoc (.snoc .nil h₁) h₂) h₃
  have hhooks : OfHooks [("/hooks/github", "github"), ("/hooks/gitlab", "gitlab")] hookEvents := by
    rintro d (_ | ⟨_, _ | ⟨_, _ | ⟨_, ⟨⟩⟩⟩⟩)
    · exact ⟨_, List.mem_cons_self, rfl⟩
    · exact ⟨_, List.mem_cons_of_mem _ List.mem_cons_self, rfl⟩
    · exact ⟨_, List.mem_cons_self, rfl⟩
  obtain ⟨htable, -, hnone⟩ := routes_refine_triggers hrun (hhooks.buildable (by decide))
    (hhooks.inPlace (by decide) (by decide))
  have hserves : (known hookEvents).Serves ⟨"team", "gitlab"⟩ (openHook "/hooks/gitlab" "gitlab")
      offline { path := "/hooks/gitlab" } := ⟨rfl, rfl⟩
  obtain ⟨entry, -, hentry⟩ := htable.served _ _ _ _ hserves
  refine ⟨w, hrun, htable, Option.isSome_of_mem hentry, hnone _ ?_⟩
  intro key trigger s webhook hs
  obtain ⟨hook, hmem, -, rfl, rfl⟩ := hhooks.serves hs
  rcases hmem with _ | ⟨_, _ | ⟨_, ⟨⟩⟩⟩
  · cases hs.1
  · decide

/-- A Trigger whose path is edited keeps its old route next to the new one. -/
theorem moved_trigger_routed_twice : ∃ w, Run (Delivered default) (.start offline)
      [⟨.upsert (openHook "/hooks/old"), offline⟩, ⟨.upsert (openHook "/hooks/new"), offline⟩] w ∧
    Guarded (Buildable default)
      [⟨.upsert (openHook "/hooks/old"), offline⟩, ⟨.upsert (openHook "/hooks/new"), offline⟩] ∧
    (w.registry.lookup "/hooks/old").isSome = true ∧
    ¬ (known [⟨.upsert (openHook "/hooks/old"), offline⟩,
      ⟨.upsert (openHook "/hooks/new"), offline⟩]).Refines default w.registry := by
  obtain ⟨w₁, h₁⟩ := Delivered.total default (.start offline)
    ⟨.upsert (openHook "/hooks/old"), offline⟩
  obtain ⟨w, hw⟩ := Delivered.total default w₁ ⟨.upsert (openHook "/hooks/new"), offline⟩
  have hhooks : OfHooks [("/hooks/old", "github"), ("/hooks/new", "github")]
      [⟨.upsert (openHook "/hooks/old"), offline⟩,
        ⟨.upsert (openHook "/hooks/new"), offline⟩] := by
    rintro d (_ | ⟨_, _ | ⟨_, ⟨⟩⟩⟩)
    · exact ⟨_, List.mem_cons_self, rfl⟩
    · exact ⟨_, List.mem_cons_of_mem _ List.mem_cons_self, rfl⟩
  have hold : w.registry.lookup "/hooks/old" =
      some (openEntry (openHook "/hooks/old") { path := "/hooks/old" }) := by
    rw [hw.registry, h₁.registry]
    decide
  refine ⟨w, .snoc (.snoc .nil h₁) hw, ?_, by rw [hold]; rfl, ?_⟩
  · exact hhooks.buildable (by decide)
  · intro htable
    obtain ⟨key, trigger, sources, webhook, hs, hpath, -⟩ := htable.only _ _ hold
    obtain ⟨hook, hmem, rfl, rfl, rfl⟩ := hhooks.serves hs
    rcases hmem with _ | ⟨_, _ | ⟨_, ⟨⟩⟩⟩
    · have hedited : some (openHook "/hooks/new").spec = some (openHook "/hooks/old").spec :=
        congrArg (Option.map fun k : Trigger × Sources => k.1.spec) hs.1
      exact absurd hedited (by decide)
    · exact absurd hpath (by decide)

end KubeZap
