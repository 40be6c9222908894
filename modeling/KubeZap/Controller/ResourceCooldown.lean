import KubeZap.Controller.ResourceWatcher
import KubeZap.Foundation.Run
import Mathlib.Algebra.Order.Group.Int

/-! # The cooldown of a resource Trigger

The table of cooldowns is shared by all Triggers. Events record in it, reconciles clear
what belongs to their Trigger, and a sweep drops what is old. The `Create` of a FlowRun
is not under the lock of the table, so it has a time of its own.
-/

namespace KubeZap

open Foundation Function

/-! ## The system -/

structure ResourceRun where
  trigger : NamespacedName
  object : NamespacedName
  eventType : WatchEventType
  recordedAt : Time
  createdAt : Time

structure CooldownWorld where
  now : Time
  rw : ResourceWatcher
  runs : List ResourceRun

def CooldownWorld.start : CooldownWorld where
  now := 0
  rw := ⟨true, true, fun _ => none, fun _ => none⟩
  runs := []

/-- An event reaches a handler, with the time of the `Create` that it makes unless that
fails; a Trigger is reconciled; or the sweep runs. -/
inductive CooldownMove
  | event (trigger : Trigger) (resource : ResourceTrigger) (u : Unstructured)
      (eventType : WatchEventType) (inputs : EventInputs) (createdAt : Option Time)
  | register (trigger : Trigger) (t : Time)
  | deregister (key : String) (t : Time)
  | sweep (t : Time)

def CooldownWorld.exec (lib : GoLib) (asSelector : AsSelector) (s : CooldownWorld) :
    CooldownMove → CooldownWorld
  | .event trigger resource u eventType inputs createdAt =>
    let done := handleEvent lib asSelector trigger resource u eventType inputs
      s.rw.cooldownTracker
    { now := inputs.recordedAt
      rw := { s.rw with cooldownTracker := done.2 }
      runs := s.runs ++ match done.1, createdAt with
        | some _, some t => [⟨trigger.key, u.name, eventType, inputs.recordedAt, t⟩]
        | _, _ => [] }
  | .register trigger t => { s with now := t, rw := s.rw.register trigger }
  | .deregister key t => { s with now := t, rw := s.rw.deregister key }
  | .sweep t =>
    { s with
      now := t
      rw := { s.rw with cooldownTracker := ResourceWatcher.evict t s.rw.cooldownTracker } }

def CooldownWorld.Timed (s : CooldownWorld) : CooldownMove → Prop
  | .event _ _ _ _ inputs createdAt =>
    s.now ≤ inputs.checkedAt ∧ inputs.checkedAt ≤ inputs.recordedAt ∧
      ∀ t, createdAt = some t → inputs.recordedAt ≤ t
  | .register _ t | .deregister _ t | .sweep t => s.now ≤ t

/-! ## Moves in order -/

/-- The Trigger `key` has the cooldown `c` in all of its events. -/
def CooldownMove.Keeps (key : NamespacedName) (c : Duration) : CooldownMove → Prop
  | .event trigger resource .. => trigger.key = key → resource.cooldown = some c
  | .register .. | .deregister .. | .sweep _ => True

/-- An entry of the Trigger is only removed when its cooldown has passed, and no FlowRun
of the Trigger is created sooner after its record than an earlier one of its kind. -/
def CooldownWorld.InOrder (key : NamespacedName) (c : Duration) (lib : GoLib)
    (asSelector : AsSelector) (s : CooldownWorld) (move : CooldownMove) : Prop :=
  (∀ object eventType last, s.rw.cooldownTracker (cooldownKey key object eventType) = some last →
    (s.exec lib asSelector move).rw.cooldownTracker (cooldownKey key object eventType) = none →
    last + c ≤ (s.exec lib asSelector move).now) ∧
  match move with
  | .event trigger _ u eventType inputs (some t) => trigger.key = key → ∀ r ∈ s.runs,
      r.trigger = key → r.object = u.name → r.eventType = eventType →
      r.createdAt - r.recordedAt ≤ t - inputs.recordedAt
  | _ => True

/-! ## One step -/

section Steps

variable {key : NamespacedName} {c : Duration} {lib : GoLib} {asSelector : AsSelector}
variable {s : CooldownWorld}

def ResourceRun.Of (key object : NamespacedName) (eventType : WatchEventType) (r : ResourceRun) :
    Prop :=
  r.trigger = key ∧ r.object = object ∧ r.eventType = eventType

/-- The table still holds off whatever would be too close to a FlowRun of the Trigger. -/
structure CooldownWorld.Inv (key : NamespacedName) (c : Duration) (s : CooldownWorld) : Prop where
  past : ∀ k last, s.rw.cooldownTracker k = some last → last ≤ s.now
  held : ∀ object eventType, ∀ r ∈ s.runs, r.Of key object eventType →
    match s.rw.cooldownTracker (cooldownKey key object eventType) with
    | some last => r.recordedAt ≤ last
    | none => r.recordedAt + c ≤ s.now
  apart : s.runs.Pairwise fun r r' => ∀ object eventType, r.Of key object eventType →
    r'.Of key object eventType → r.createdAt + c ≤ r'.createdAt

theorem CooldownWorld.Inv.start : CooldownWorld.start.Inv key c where
  past := nofun
  held := nofun
  apart := .nil

theorem CooldownWorld.Inv.recorded_le (h : s.Inv key c) (hc : 0 < c) {r : ResourceRun}
    (hr : r ∈ s.runs) (hkey : r.trigger = key) : r.recordedAt ≤ s.now := by
  have hheld := h.held r.object r.eventType r hr ⟨hkey, rfl, rfl⟩
  split at hheld
  next last hlast => exact hheld.trans (h.past _ last hlast)
  · exact (le_add_of_nonneg_right hc.le).trans hheld

theorem CooldownWorld.Inv.cleared (h : s.Inv key c) {t : Time} {rw' : ResourceWatcher}
    (ht : s.now ≤ t)
    (hclear : ∀ k, rw'.cooldownTracker k = s.rw.cooldownTracker k ∨ rw'.cooldownTracker k = none)
    (hpassed : ∀ object eventType last,
      s.rw.cooldownTracker (cooldownKey key object eventType) = some last →
      rw'.cooldownTracker (cooldownKey key object eventType) = none → last + c ≤ t) :
    CooldownWorld.Inv key c { s with now := t, rw := rw' } where
  past k last hlast := by
    rcases hclear k with hsame | hnone
    · exact (h.past k last (hsame ▸ hlast)).trans ht
    · rw [hnone] at hlast
      cases hlast
  held object eventType r hr hof := by
    have hheld := h.held object eventType r hr hof
    have hgone := hpassed object eventType
    rcases hclear (cooldownKey key object eventType) with hsame | hnone
    · simp only [hsame]
      split at hheld
      next hlast => simpa only [hlast] using hheld
      next hlast => simpa only [hlast] using hheld.trans ht
    · simp only [hnone]
      split at hheld
      next last hlast =>
        exact (Int.add_le_add_right hheld c).trans (hgone last hlast hnone)
      · exact hheld.trans ht
  apart := h.apart

theorem CooldownWorld.Inv.recorded (h : s.Inv key c) (hc : 0 < c) {t : Time} {k : String}
    {tracker : Tracker} (ht : s.now ≤ t) (htracker : tracker = s.rw.cooldownTracker ∨
      tracker = update s.rw.cooldownTracker k (some t)) :
    CooldownWorld.Inv key c
      { s with now := t, rw := { s.rw with cooldownTracker := tracker } } where
  past k' last hlast := by
    rcases htracker with rfl | rfl
    · exact (h.past k' last hlast).trans ht
    · simp only [update_apply] at hlast
      split at hlast
      · exact (Option.some.inj hlast).ge
      · exact (h.past k' last hlast).trans ht
  held object eventType r hr hof := by
    have hheld := h.held object eventType r hr hof
    rcases htracker with rfl | rfl
    · split at hheld
      next hlast => simpa only [hlast] using hheld
      next hlast => simpa only [hlast] using hheld.trans ht
    · by_cases hk : cooldownKey key object eventType = k
      · subst hk
        simp only [update_self]
        exact (h.recorded_le hc hr hof.1).trans ht
      · simp only [update_of_ne hk]
        split at hheld
        next hlast => simpa only [hlast] using hheld
        next hlast => simpa only [hlast] using hheld.trans ht
  apart := h.apart

theorem CooldownWorld.Inv.append (h : s.Inv key c) {r : ResourceRun} (hlast : r.trigger = key →
      s.rw.cooldownTracker (cooldownKey key r.object r.eventType) = some r.recordedAt)
    (hpassed : r.trigger = key → ∀ r' ∈ s.runs, r'.Of key r.object r.eventType →
      r'.createdAt + c ≤ r.createdAt) :
    CooldownWorld.Inv key c { s with runs := s.runs ++ [r] } where
  past := h.past
  held object eventType r' hr' hof := by
    rcases List.mem_append.mp hr' with hr' | hr'
    · exact h.held object eventType r' hr' hof
    · obtain rfl := List.mem_singleton.mp hr'
      obtain ⟨hkey, rfl, rfl⟩ := hof
      simp only [hlast hkey]
      exact le_rfl
  apart := by
    rw [List.pairwise_append]
    refine ⟨h.apart, List.pairwise_singleton _ _, ?_⟩
    intro r' hr' r'' hr'' object eventType hof hof''
    obtain rfl := List.mem_singleton.mp hr''
    obtain ⟨hkey, rfl, rfl⟩ := hof''
    exact hpassed hkey r' hr' hof

theorem CooldownWorld.Inv.event (h : s.Inv key c) (hc : 0 < c) {trigger : Trigger}
    {resource : ResourceTrigger} {u : Unstructured} {eventType : WatchEventType}
    {inputs : EventInputs} {createdAt : Option Time}
    (htimed : s.Timed (.event trigger resource u eventType inputs createdAt))
    (hkeeps : trigger.key = key → resource.cooldown = some c)
    (hord : s.InOrder key c lib asSelector (.event trigger resource u eventType inputs createdAt)) :
    (s.exec lib asSelector (.event trigger resource u eventType inputs createdAt)).Inv key c := by
  have hnow : s.now ≤ inputs.recordedAt := htimed.1.trans htimed.2.1
  have hrecorded := h.recorded hc hnow
    (handleEvent_tracker lib asSelector trigger resource u eventType inputs s.rw.cooldownTracker)
  cases hdone : (handleEvent lib asSelector trigger resource u eventType inputs
      s.rw.cooldownTracker).1 with
  | none => simpa [CooldownWorld.exec, hdone] using hrecorded
  | some flowRun =>
    cases createdAt with
    | none => simpa [CooldownWorld.exec, hdone] using hrecorded
    | some t =>
      have hpass := (handleEvent_flowRun hdone).2.2
      simp only [CooldownWorld.exec, hdone]
      refine hrecorded.append ?_ ?_
      · rintro (rfl : trigger.key = key)
        rw [hkeeps rfl] at hpass
        simp only [(passCooldown_some hc hpass).1, update_self]
      · rintro (rfl : trigger.key = key) r hr hof
        rw [hkeeps rfl] at hpass
        have hold := (passCooldown_some hc hpass).2
        have hheld := h.held u.name eventType r hr hof
        have hlatency := hord.2 rfl r hr hof.1 hof.2.1 hof.2.2
        have hspaced : r.recordedAt + c ≤ inputs.checkedAt := by
          split at hheld
          next last hlast =>
            exact (Int.add_le_add_right hheld c).trans
              (Int.add_le_of_le_sub_left (hold last hlast))
          · exact hheld.trans htimed.1
        have hrecorded := hspaced.trans htimed.2.1
        grind

theorem CooldownWorld.Inv.step {move : CooldownMove} (h : s.Inv key c) (hc : 0 < c)
    (htimed : s.Timed move) (hkeeps : move.Keeps key c)
    (hord : s.InOrder key c lib asSelector move) : (s.exec lib asSelector move).Inv key c := by
  cases move with
  | event trigger resource u eventType inputs createdAt => exact h.event hc htimed hkeeps hord
  | register trigger t =>
    refine h.cleared htimed ?_ hord.1
    intro k
    simp only [ResourceWatcher.register]
    split_ifs <;> exact s.rw.deregister_tracker _ k
  | deregister k t => exact h.cleared htimed (s.rw.deregister_tracker k) hord.1
  | sweep t => exact h.cleared htimed (ResourceWatcher.evict_eq t s.rw.cooldownTracker) hord.1

end Steps

/-! ## Every sequence of events, reconciles and sweeps -/

/-- While no entry of the Trigger is removed before its cooldown has passed, and its
FlowRuns are created with no less delay than the earlier ones, any two of them for one
object and event type are created at least its cooldown apart. -/
theorem resource_runs_apart {lib : GoLib} {asSelector : AsSelector} {key : NamespacedName}
    {c : Duration} (hc : 0 < c) {moves : List CooldownMove} {s : CooldownWorld}
    (hrun : Run (fun s move s' => s.InOrder key c lib asSelector move ∧
      s.Timed move ∧ move.Keeps key c ∧ s' = s.exec lib asSelector move) .start moves s) :
    s.runs.Pairwise fun r r' => r.trigger = key → r'.trigger = key → r.object = r'.object →
      r.eventType = r'.eventType → r.createdAt + c ≤ r'.createdAt := by
  have hinv : s.Inv key c := by
    refine hrun.always (CooldownWorld.Inv key c) .start ?_
    rintro s move s' h ⟨hord, htimed, hkeeps, rfl⟩
    exact h.step hc htimed hkeeps hord
  refine hinv.apart.imp ?_
  intro r r' happart hkey hkey' hobject htype
  exact happart r.object r.eventType ⟨hkey, rfl, rfl⟩ ⟨hkey', hobject.symm, htype.symm⟩

def deployments : ResourceTrigger where
  apiVersion := "apps/v1"
  kind := "Deployment"
  events := ["update"]
  cooldown := some (5 * minute)

def deploymentTrigger : Trigger where
  metadata := { name := ⟨"team", "rollouts"⟩ }
  spec := { type := .resource, resource := some deployments, flowRef := "notify" }

def webDeployment : Unstructured where
  name := ⟨"team", "web"⟩
  uid := "77c1"
  resourceVersion := "8"

def rollout (t : Time) : CooldownMove :=
  .event deploymentTrigger deployments webDeployment .modified ⟨t, t, t, "00"⟩ (some t)

theorem rollout_timed {s : CooldownWorld} {t : Time} (h : s.now ≤ t) : s.Timed (rollout t) := by
  refine ⟨h, le_rfl, ?_⟩
  rintro t' ⟨⟩
  exact le_rfl

theorem rollout_inOrder {s : CooldownWorld} {t : Time} {key : NamespacedName} {c : Duration}
    (h : ∀ r ∈ s.runs, r.createdAt = r.recordedAt) :
    s.InOrder key c default (fun _ => none) (rollout t) := by
  refine ⟨?_, ?_⟩
  · intro object eventType last hlast hgone
    have hsame := handleEvent_tracker default (fun _ => none) deploymentTrigger deployments
      webDeployment .modified ⟨t, t, t, "00"⟩ s.rw.cooldownTracker
    simp only [rollout, CooldownWorld.exec] at hgone
    rcases hsame with hsame | hsame
    · rw [hsame, hlast] at hgone
      cases hgone
    · rw [hsame] at hgone
      by_cases hk : cooldownKey key object eventType =
          cooldownKey deploymentTrigger.key webDeployment.name .modified
      · rw [hk, update_self] at hgone
        cases hgone
      · rw [update_of_ne hk, hlast] at hgone
        cases hgone
  · intro _ r hr _ _ _
    rw [h r hr, sub_self, sub_self]

/-- Two updates five minutes apart. -/
theorem rollouts_apart : ∃ s : CooldownWorld, Run
      (fun s move s' => s.InOrder ⟨"team", "rollouts"⟩ (5 * minute) default (fun _ => none) move ∧
        s.Timed move ∧ move.Keeps ⟨"team", "rollouts"⟩ (5 * minute) ∧
        s' = s.exec default (fun _ => none) move)
      .start [rollout 0, rollout (5 * minute)] s ∧
    s.runs.map (·.createdAt) = [0, 5 * minute] ∧
    s.runs.Pairwise fun r r' => r.trigger = ⟨"team", "rollouts"⟩ →
      r'.trigger = ⟨"team", "rollouts"⟩ → r.object = r'.object →
      r.eventType = r'.eventType → r.createdAt + 5 * minute ≤ r'.createdAt := by
  have hrun : ∃ s : CooldownWorld, Run
      (fun s move s' => s.InOrder ⟨"team", "rollouts"⟩ (5 * minute) default (fun _ => none) move ∧
        s.Timed move ∧ move.Keeps ⟨"team", "rollouts"⟩ (5 * minute) ∧
        s' = s.exec default (fun _ => none) move)
      .start [rollout 0, rollout (5 * minute)] s ∧ s.runs.map (·.createdAt) = [0, 5 * minute] := by
    refine ⟨_, .snoc (.snoc .nil
      ⟨rollout_inOrder nofun, rollout_timed le_rfl, fun _ => rfl, rfl⟩)
      ⟨rollout_inOrder ?_, rollout_timed ?_, fun _ => rfl, rfl⟩, ?_⟩
    · intro r hr
      have honly : r = ⟨⟨"team", "rollouts"⟩, ⟨"team", "web"⟩, .modified, 0, 0⟩ :=
        List.mem_singleton.mp hr
      rw [honly]
    · decide
    · decide
  obtain ⟨s, hrun, htimes⟩ := hrun
  exact ⟨s, hrun, htimes, resource_runs_apart (by decide) hrun⟩

/-- A reconcile of the Trigger between two updates lets the second one through. -/
theorem rollouts_close : ∃ s : CooldownWorld, Run
      (fun s move s' => s.Timed move ∧ move.Keeps ⟨"team", "rollouts"⟩ (5 * minute) ∧
        s' = s.exec default (fun _ => none) move)
      .start [rollout 0, .register deploymentTrigger second, rollout (2 * second)] s ∧
    s.runs.map (fun r => (r.trigger, r.object, r.eventType, r.createdAt)) =
      [(⟨"team", "rollouts"⟩, ⟨"team", "web"⟩, .modified, 0),
        (⟨"team", "rollouts"⟩, ⟨"team", "web"⟩, .modified, 2 * second)] := by
  have hregister : (0 : Time) ≤ second := by decide
  have hsecond : second ≤ 2 * second := by decide
  exact ⟨_, .snoc (.snoc (.snoc .nil ⟨rollout_timed le_rfl, fun _ => rfl, rfl⟩)
    ⟨hregister, trivial, rfl⟩) ⟨rollout_timed hsecond, fun _ => rfl, rfl⟩, by decide⟩

end KubeZap
