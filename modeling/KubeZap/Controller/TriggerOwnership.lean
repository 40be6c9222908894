import KubeZap.Controller.TriggerEffects
import KubeZap.Foundation.Run

/-! # Which Triggers the controller runs

The scheduler and the watcher hold what the reconciles of the Triggers have left in
them. A Trigger owns its sources when they are the ones its spec asks for; a reconcile
gives the Trigger of its name the sources it owns and leaves those of the others alone.
-/

namespace KubeZap

open Foundation Function

/-! ## The sources a Trigger asks for -/

def Trigger.cronJob (trg : Trigger) : Option CronJob :=
  if trg.metadata.deletionTimestamp = none ∧ trg.spec.type = .cron ∧ trg.spec.enabled = true then
    trg.spec.cron.map fun cron => ⟨CronScheduler.scheduleText cron, trg.key, trg.spec.flowRef⟩
  else none

/-- The spec under which the objects of a Trigger with a resource source are watched. -/
def Trigger.watchSpec (trg : Trigger) : Option TriggerSpec :=
  if trg.metadata.deletionTimestamp = none ∧ trg.spec.type = .resource ∧
      trg.spec.enabled = true ∧ trg.spec.resource.isSome then some trg.spec
  else none

section Sources

variable {lib : GoLib} {parse : String → Option String} {name : NamespacedName}
variable {trg trg' : Trigger} {w w' : TriggerWorld} {s : CronScheduler} {rw : ResourceWatcher}

theorem cronJob_of_deleting (h : trg.metadata.deletionTimestamp.isSome) : trg.cronJob = none := by
  rw [Trigger.cronJob, if_neg]
  rintro ⟨hnone, -⟩
  simp [hnone] at h

theorem watchSpec_of_deleting (h : trg.metadata.deletionTimestamp.isSome) :
    trg.watchSpec = none := by
  rw [Trigger.watchSpec, if_neg]
  rintro ⟨hnone, -⟩
  simp [hnone] at h

theorem isSome_cronJob_iff : trg.cronJob.isSome ↔ trg.metadata.deletionTimestamp = none ∧
    trg.spec.type = .cron ∧ trg.spec.enabled = true ∧ trg.spec.cron.isSome := by
  unfold Trigger.cronJob
  split_ifs with hwanted
  · simp [hwanted]
  · simp only [Option.isSome_none, Bool.false_eq_true, false_iff]
    exact fun h => hwanted ⟨h.1, h.2.1, h.2.2.1⟩

theorem isSome_watchSpec_iff : trg.watchSpec.isSome ↔ trg.metadata.deletionTimestamp = none ∧
    trg.spec.type = .resource ∧ trg.spec.enabled = true ∧ trg.spec.resource.isSome := by
  unfold Trigger.watchSpec
  split_ifs with hwanted
  · simp [hwanted]
  · simpa using hwanted

theorem cronAfter_job (hs : s.Coherent) (hkey : trg.key = name)
    (hlive : trg.metadata.deletionTimestamp = none)
    (hok : trg.spec.type = .cron → trg.spec.enabled = true ∧ trg.spec.cron.isSome →
      (s.register lib parse trg).2 = none)
    (hother : trg.spec.type ≠ .cron → s.job name.slashed = none) :
    (cronAfter lib parse s name trg).Coherent ∧
      (cronAfter lib parse s name trg).job name.slashed = trg.cronJob ∧
      ∀ key, key ≠ name.slashed → (cronAfter lib parse s name trg).job key = s.job key := by
  subst hkey
  unfold cronAfter
  by_cases htype : trg.spec.type = .cron
  · rw [if_neg (not_not.mpr htype)]
    by_cases hon : trg.spec.enabled = true ∧ trg.spec.cron.isSome
    · obtain ⟨cron, hcron⟩ := Option.isSome_iff_exists.mp hon.2
      have hregister : (s.register lib parse trg).1 = (s.deregister trg.key.slashed).added
          ⟨CronScheduler.scheduleText cron, trg.key, trg.spec.flowRef⟩ := by
        have hnone := hok htype hon
        simp only [CronScheduler.register, hcron] at hnone ⊢
        split at hnone
        · cases hnone
        · rfl
      rw [if_pos hon, hregister]
      have hold := hs.deregister trg.key.slashed
      refine ⟨hold.added ?_, ?_, ?_⟩
      · simp [CronScheduler.entries_deregister]
      · rw [Trigger.cronJob, if_pos ⟨hlive, htype, hon.1⟩, hcron]
        simp [CronScheduler.job, CronScheduler.added]
      · intro key hne
        rw [hold.job_added_of_ne hne, hs.job_deregister_of_ne hne]
    · rw [if_neg hon]
      refine ⟨hs.deregister _, ?_, fun key hne => hs.job_deregister_of_ne hne⟩
      have hnone : trg.spec.enabled = true → trg.spec.cron = none := by
        intro henabled
        rw [← Option.not_isSome_iff_eq_none]
        exact fun hsome => hon ⟨henabled, hsome⟩
      rw [CronScheduler.job_deregister_self, Trigger.cronJob]
      split_ifs with hwanted
      · rw [hnone hwanted.2.2]
        rfl
      · rfl
  · rw [if_pos htype]
    refine ⟨hs, ?_, fun _ _ => rfl⟩
    rw [hother htype, Trigger.cronJob, if_neg fun h => htype h.2.1]

theorem ResourceWatcher.register_watchers (hready : rw.dynamicClient = true ∧ rw.started = true)
    (hresource : trg.spec.resource.isSome) :
    (rw.register trg).dynamicClient = true ∧ (rw.register trg).started = true ∧
      (rw.register trg).watchers = update rw.watchers trg.key.slashed (some trg) := by
  have hnot : trg.spec.resource.isNone = false := by
    rw [Option.isNone_eq_false_iff]
    exact hresource
  simp [ResourceWatcher.register, ResourceWatcher.deregister, hready, hnot]

theorem watchAfter_watcher (hready : rw.dynamicClient = true ∧ rw.started = true)
    (hkey : trg'.key = name) (hspec : trg'.spec = trg.spec)
    (hlive : trg.metadata.deletionTimestamp = none)
    (hother : trg.spec.type ≠ .resource → rw.watchers name.slashed = none) :
    ((watchAfter rw name trg trg').dynamicClient = true ∧
        (watchAfter rw name trg trg').started = true) ∧
      ((watchAfter rw name trg trg').watchers name.slashed).map Trigger.spec = trg.watchSpec ∧
      ∀ key, key ≠ name.slashed → (watchAfter rw name trg trg').watchers key = rw.watchers key := by
  subst hkey
  unfold watchAfter
  by_cases htype : trg.spec.type = .resource
  · rw [if_neg (not_not.mpr htype)]
    by_cases hon : trg.spec.enabled = true ∧ trg.spec.resource.isSome
    · obtain ⟨hclient, hstarted, hwatchers⟩ := ResourceWatcher.register_watchers hready
        (hspec ▸ hon.2)
      rw [if_pos hon]
      refine ⟨⟨hclient, hstarted⟩, ?_, ?_⟩
      · rw [hwatchers, update_self, Trigger.watchSpec, if_pos ⟨hlive, htype, hon⟩, ← hspec]
        rfl
      · intro key hne
        rw [hwatchers, update_of_ne hne]
    · rw [if_neg hon]
      refine ⟨hready, ?_, ?_⟩
      · rw [Trigger.watchSpec, if_neg fun h => hon h.2.2]
        simp [ResourceWatcher.deregister]
      · intro key hne
        simp [ResourceWatcher.deregister, update_of_ne hne]
  · rw [if_pos htype]
    refine ⟨hready, ?_, fun _ _ => rfl⟩
    rw [hother htype, Trigger.watchSpec, if_neg fun h => htype h.2.1]
    rfl

/-! ## One reconcile -/

/-- What holds of the controller whatever the Triggers are. -/
structure TriggerWorld.Sound (w : TriggerWorld) : Prop where
  named : ∀ k trg, w.triggers k = some trg → trg.key = k ∧ k.Admitted
  coherent : w.scheduler.Coherent
  ready : w.rw.dynamicClient = true ∧ w.rw.started = true

/-- The sources of the name are those that its Trigger asks for, which then has the finalizers. -/
structure TriggerWorld.Owns (w : TriggerWorld) (k : NamespacedName) : Prop where
  cron : w.scheduler.job k.slashed = (w.triggers k).bind Trigger.cronJob
  resource : (w.rw.watchers k.slashed).map Trigger.spec = (w.triggers k).bind Trigger.watchSpec
  finalizers : ∀ trg, w.triggers k = some trg →
    (trg.cronJob.isSome → cronTriggerFinalizer ∈ trg.metadata.finalizers) ∧
      (trg.watchSpec.isSome → resourceTriggerFinalizer ∈ trg.metadata.finalizers)

/-- Nothing but what belongs to the name may differ. -/
structure Framed (name : NamespacedName) (w w' : TriggerWorld) : Prop where
  triggers : ∀ k, k ≠ name → w'.triggers k = w.triggers k
  jobs : ∀ key, key ≠ name.slashed → w'.scheduler.job key = w.scheduler.job key
  watchers : ∀ key, key ≠ name.slashed → w'.rw.watchers key = w.rw.watchers key

/-- The sources that the reconcile of a Trigger of its type does not look at are not there. -/
structure TriggerWorld.Clear (w : TriggerWorld) (name : NamespacedName) : Prop where
  absent : w.triggers name = none →
    w.scheduler.job name.slashed = none ∧ w.rw.watchers name.slashed = none
  cron : ∀ trg, w.triggers name = some trg → trg.metadata.deletionTimestamp = none →
    trg.spec.type ≠ .cron → w.scheduler.job name.slashed = none
  resource : ∀ trg, w.triggers name = some trg → trg.metadata.deletionTimestamp = none →
    trg.spec.type ≠ .resource → w.rw.watchers name.slashed = none

theorem Framed.owns {k : NamespacedName} (h : Framed name w w') (hvalid : name.Admitted)
    (hk : k.Admitted) (hne : k ≠ name) (howns : w.Owns k) : w'.Owns k := by
  have hkey : k.slashed ≠ name.slashed := fun heq => hne (NamespacedName.eq_of_slash hk hvalid heq)
  refine ⟨?_, ?_, ?_⟩
  · rw [h.jobs _ hkey, h.triggers k hne, howns.cron]
  · rw [h.watchers _ hkey, h.triggers k hne, howns.resource]
  · rw [h.triggers k hne]
    exact howns.finalizers

theorem Detached.owns (h : Detached name w w') (hw : w.Sound) (hvalid : name.Admitted) :
    w'.Sound ∧ w'.Owns name ∧ Framed name w w' := by
  refine ⟨⟨?_, ?_, ?_⟩, ⟨?_, ?_, ?_⟩, ⟨h.others, ?_, ?_⟩⟩
  · intro k trg htrg
    by_cases hk : k = name
    · subst hk
      exact ⟨(h.deleting trg htrg).1, hvalid⟩
    · exact hw.named k trg (h.others k hk ▸ htrg)
  · rw [h.scheduler]
    exact hw.coherent.deregister _
  · rw [h.watcher]
    exact hw.ready
  · rw [h.scheduler, CronScheduler.job_deregister_self]
    cases htrg : w'.triggers name with
    | none => rfl
    | some trg => exact (cronJob_of_deleting (h.deleting trg htrg).2).symm
  · rw [h.watcher]
    cases htrg : w'.triggers name with
    | none => simp [ResourceWatcher.deregister]
    | some trg =>
      simp [ResourceWatcher.deregister, watchSpec_of_deleting (h.deleting trg htrg).2]
  · intro trg htrg
    have hdeleting := (h.deleting trg htrg).2
    simp [cronJob_of_deleting hdeleting, watchSpec_of_deleting hdeleting]
  · intro key hne
    rw [h.scheduler, hw.coherent.job_deregister_of_ne hne]
  · intro key hne
    simp [h.watcher, ResourceWatcher.deregister, update_of_ne hne]

theorem Attached.owns (h : Attached lib parse name trg w trg' w') (hw : w.Sound)
    (hholds : w.Holds name trg) (hvalid : name.Admitted) (hclear : w.Clear name) :
    w'.Sound ∧ w'.Owns name ∧ Framed name w w' := by
  obtain ⟨stored, hkey, hspec, hwatcher⟩ := h.watcher
  obtain ⟨hcoherent, hjob, hjobs⟩ := cronAfter_job hw.coherent hholds.key hholds.live
    (fun htype hon => (h.accepted htype hon).1) (hclear.cron trg hholds.stored hholds.live)
  obtain ⟨hready, hwatch, hwatchers⟩ := watchAfter_watcher hw.ready hkey hspec hholds.live
    (hclear.resource trg hholds.stored hholds.live)
  rw [← h.scheduler] at hcoherent hjob hjobs
  rw [← hwatcher] at hready hwatch hwatchers
  have hcron : trg'.cronJob = trg.cronJob := by
    simp only [Trigger.cronJob, h.spec, h.holds.live, hholds.live, h.holds.key, hholds.key]
  have hresource : trg'.watchSpec = trg.watchSpec := by
    simp only [Trigger.watchSpec, h.spec, h.holds.live, hholds.live]
  refine ⟨⟨?_, hcoherent, hready⟩, ⟨?_, ?_, ?_⟩, h.others, hjobs, hwatchers⟩
  · intro k trg'' htrg
    by_cases hk : k = name
    · subst hk
      rw [h.holds.stored] at htrg
      cases htrg
      exact ⟨h.holds.key, hvalid⟩
    · exact hw.named k trg'' (h.others k hk ▸ htrg)
  · rw [hjob, h.holds.stored, ← hcron]
    rfl
  · rw [hwatch, h.holds.stored, ← hresource]
    rfl
  · intro trg'' htrg
    rw [h.holds.stored] at htrg
    cases htrg
    refine ⟨fun hsome => ?_, fun hsome => ?_⟩
    · obtain ⟨-, htype, hon⟩ := isSome_cronJob_iff.mp hsome
      rw [h.spec] at htype hon
      exact (h.accepted htype hon).2
    · obtain ⟨-, htype, hon⟩ := isSome_watchSpec_iff.mp hsome
      rw [h.spec] at htype hon
      exact h.watched htype hon

theorem completes_reconcileTrigger {result : Option Duration} (hw : w.Sound) (hvalid : name.Admitted)
    (hclear : w.Clear name)
    (hrun : Completes (TriggerReq.env lib parse) w (reconcileTrigger name) w' (.ok result)) :
    w'.Sound ∧ w'.Owns name ∧ Framed name w w' := by
  simp only [reconcileTrigger, TriggerReq.send, completes_request] at hrun
  obtain ⟨x, w₁, ⟨rfl, hread⟩, hrun⟩ := hrun
  rcases x with (_ | _) | trg
  · obtain ⟨rfl, -⟩ := completes_return.mp hrun
    obtain ⟨hjob, hwatcher⟩ := hclear.absent hread
    refine ⟨hw, ⟨?_, ?_, ?_⟩, ⟨fun _ _ => rfl, fun _ _ => rfl, fun _ _ => rfl⟩⟩
    · rw [hjob, hread]
      rfl
    · rw [hwatcher, hread]
      rfl
    · intro trg htrg
      rw [hread] at htrg
      cases htrg
  · simp at hrun
  · have hkey := (hw.named name trg hread).1
    cases hdeletion : trg.metadata.deletionTimestamp with
    | some t =>
      simp only [hdeletion, Option.isSome_some, if_true] at hrun
      exact (completes_reconcileDeletion hread hkey (by simp [hdeletion]) hrun).owns hw hvalid
    | none =>
      simp only [hdeletion, Option.isSome_none, Bool.false_eq_true, if_false] at hrun
      obtain ⟨trg', hattached⟩ := completes_live ⟨hread, hkey, hdeletion⟩ hrun
      exact hattached.owns hw ⟨hread, hkey, hdeletion⟩ hvalid hclear

end Sources

/-! ## Edits and their reconciles -/

/-- What a user does to a Trigger: write it, whether it is there or not, or delete it. -/
inductive TriggerMove
  | put (trigger : Trigger)
  | delete (name : NamespacedName) (now : Time)

def TriggerMove.name : TriggerMove → NamespacedName
  | .put trigger => trigger.key
  | .delete name _ => name

def Trigger.withDeletion (trg : Trigger) (t : Option Time) : Trigger :=
  { trg with metadata := { trg.metadata with deletionTimestamp := t } }

/-- The API server decides whether an object is being deleted, not the one who writes it. -/
def TriggerWorld.edit (w : TriggerWorld) : TriggerMove → TriggerWorld
  | .put trg =>
    w.put (trg.withDeletion ((w.triggers trg.key).bind (·.metadata.deletionTimestamp)))
  | .delete name now =>
    match w.triggers name with
    | none => w
    | some trg => w.put (trg.withDeletion (some (trg.metadata.deletionTimestamp.getD now)))

/-- An edit, and then a successful reconcile that reads the Trigger as it is. -/
def TriggerWorld.Managed (lib : GoLib) (parse : String → Option String) (w : TriggerWorld)
    (move : TriggerMove) (w' : TriggerWorld) : Prop :=
  move.name.Admitted ∧ ∃ result, Completes (TriggerReq.env lib parse) (w.edit move)
    (reconcileTrigger move.name) w' (.ok result)

/-- The manager has started the watcher and given it a client; there is no Trigger yet. -/
def TriggerWorld.start : TriggerWorld where
  triggers := fun _ => none
  scheduler := .new
  rw := ⟨true, true, fun _ => none, fun _ => none⟩

def TriggerWorld.KeepsType (w : TriggerWorld) : TriggerMove → Prop
  | .put trg => ∀ old, w.triggers trg.key = some old →
      (old.cronJob.isSome → trg.spec.type = .cron) ∧
        (old.watchSpec.isSome → trg.spec.type = .resource)
  | .delete .. => True

section Edits

variable {lib : GoLib} {parse : String → Option String} {name : NamespacedName}
variable {trg : Trigger} {move : TriggerMove} {w w' : TriggerWorld}

theorem TriggerWorld.Sound.put (h : w.Sound) (hvalid : trg.key.Admitted) : (w.put trg).Sound := by
  refine ⟨?_, h.coherent, h.ready⟩
  intro k trg' htrg'
  by_cases hk : k = trg.key
  · rw [triggers_put_self hk.symm] at htrg'
    obtain rfl := eq_of_kept htrg'
    exact ⟨hk.symm, hk ▸ hvalid⟩
  · rw [triggers_put_of_ne hk] at htrg'
    exact h.named k trg' htrg'

theorem Framed.put (w : TriggerWorld) (hkey : trg.key = name) : Framed name w (w.put trg) :=
  ⟨fun _ hk => triggers_put_of_ne (hkey.symm ▸ hk), fun _ _ => rfl, fun _ _ => rfl⟩

theorem Framed.trans {w'' : TriggerWorld} (h : Framed name w w') (h' : Framed name w' w'') :
    Framed name w w'' :=
  ⟨fun k hk => (h'.triggers k hk).trans (h.triggers k hk),
    fun key hk => (h'.jobs key hk).trans (h.jobs key hk),
    fun key hk => (h'.watchers key hk).trans (h.watchers key hk)⟩

theorem TriggerWorld.Owns.job_eq_none (h : w.Owns name)
    (hnone : ∀ trg, w.triggers name = some trg → trg.cronJob = none) :
    w.scheduler.job name.slashed = none := by
  rw [h.cron, Option.bind_eq_none_iff]
  exact hnone

theorem TriggerWorld.Owns.watcher_eq_none (h : w.Owns name)
    (hnone : ∀ trg, w.triggers name = some trg → trg.watchSpec = none) :
    w.rw.watchers name.slashed = none := by
  rw [← Option.map_eq_none_iff, h.resource, Option.bind_eq_none_iff]
  exact hnone

theorem TriggerWorld.Owns.clear_put (h : w.Owns trg.key)
    (hkept : w.KeepsType (.put trg)) : (w.edit (.put trg)).Clear trg.key := by
  set trg' := trg.withDeletion ((w.triggers trg.key).bind (·.metadata.deletionTimestamp)) with htrg'
  have hself : (w.edit (.put trg)).triggers trg.key = trg'.kept := triggers_put_self rfl
  refine ⟨?_, ?_, ?_⟩
  · intro habsent
    -- only an object that is being deleted is gone when it is written
    have hdeleting : ∀ old, w.triggers trg.key = some old →
        old.metadata.deletionTimestamp.isSome := by
      intro old hold
      rw [hself, Trigger.kept] at habsent
      split_ifs at habsent with hgone
      simpa [htrg', Trigger.withDeletion, hold] using hgone.1
    exact ⟨h.job_eq_none fun old hold => cronJob_of_deleting (hdeleting old hold),
      h.watcher_eq_none fun old hold => watchSpec_of_deleting (hdeleting old hold)⟩
  · intro stored hstored _ htype
    obtain rfl := eq_of_kept (hself.symm.trans hstored)
    refine h.job_eq_none fun old hold => ?_
    rw [← Option.not_isSome_iff_eq_none]
    exact fun hsome => htype ((hkept old hold).1 hsome)
  · intro stored hstored _ htype
    obtain rfl := eq_of_kept (hself.symm.trans hstored)
    refine h.watcher_eq_none fun old hold => ?_
    rw [← Option.not_isSome_iff_eq_none]
    exact fun hsome => htype ((hkept old hold).2 hsome)

theorem TriggerWorld.Owns.clear_delete (h : w.Owns name) (hw : w.Sound) (now : Time) :
    (w.edit (.delete name now)).Clear name := by
  cases hold : w.triggers name with
  | none =>
    have hedit : w.edit (.delete name now) = w := by simp [TriggerWorld.edit, hold]
    rw [hedit]
    have hnone : ∀ trg, w.triggers name ≠ some trg := by simp [hold]
    exact ⟨fun _ => ⟨h.job_eq_none fun trg htrg => absurd htrg (hnone trg),
        h.watcher_eq_none fun trg htrg => absurd htrg (hnone trg)⟩,
      fun trg htrg => absurd htrg (hnone trg), fun trg htrg => absurd htrg (hnone trg)⟩
  | some trg =>
    set trg' := trg.withDeletion (some (trg.metadata.deletionTimestamp.getD now)) with htrg'
    have hedit : w.edit (.delete name now) = w.put trg' := by simp [TriggerWorld.edit, hold, htrg']
    have hself : (w.put trg').triggers name = trg'.kept :=
      triggers_put_self (hw.named name trg hold).1
    rw [hedit]
    refine ⟨?_, ?_, ?_⟩
    · intro habsent
      -- without finalizers it had no sources
      have hbare : trg.metadata.finalizers = [] := by
        rw [hself, Trigger.kept] at habsent
        split_ifs at habsent with hgone
        exact hgone.2
      obtain ⟨hcron, hresource⟩ := h.finalizers trg hold
      rw [hbare] at hcron hresource
      refine ⟨h.job_eq_none ?_, h.watcher_eq_none ?_⟩
      · intro old hold'
        cases hold.symm.trans hold'
        rw [← Option.not_isSome_iff_eq_none]
        exact fun hsome => List.not_mem_nil (hcron hsome)
      · intro old hold'
        cases hold.symm.trans hold'
        rw [← Option.not_isSome_iff_eq_none]
        exact fun hsome => List.not_mem_nil (hresource hsome)
    · intro stored hstored hlive
      obtain rfl := eq_of_kept (hself.symm.trans hstored)
      cases hlive
    · intro stored hstored hlive
      obtain rfl := eq_of_kept (hself.symm.trans hstored)
      cases hlive

theorem TriggerWorld.Sound.edit (h : w.Sound) (hvalid : move.name.Admitted) : (w.edit move).Sound := by
  cases move with
  | put trg => exact h.put hvalid
  | delete name now =>
    cases hold : w.triggers name with
    | none => simpa [TriggerWorld.edit, hold] using h
    | some trg =>
      have hkey := (h.named name trg hold).1
      simp only [TriggerWorld.edit, hold]
      exact h.put (hkey.symm ▸ hvalid)

theorem Framed.edit (h : w.Sound) : Framed move.name w (w.edit move) := by
  cases move with
  | put trg => exact .put w rfl
  | delete name now =>
    cases hold : w.triggers name with
    | none =>
      simp only [TriggerWorld.edit, hold]
      exact ⟨fun _ _ => rfl, fun _ _ => rfl, fun _ _ => rfl⟩
    | some trg =>
      simp only [TriggerWorld.edit, hold]
      exact .put w (h.named name trg hold).1

theorem TriggerWorld.Owns.clear (h : w.Owns move.name) (hw : w.Sound) (hkept : w.KeepsType move) :
    (w.edit move).Clear move.name := by
  cases move with
  | put trg => exact h.clear_put hkept
  | delete name now => exact h.clear_delete hw now

structure TriggerWorld.Owned (w : TriggerWorld) : Prop where
  sound : w.Sound
  owns : ∀ k : NamespacedName, k.Admitted → w.Owns k

theorem TriggerWorld.Owned.start : TriggerWorld.start.Owned := by
  have hnone : ∀ k, TriggerWorld.start.triggers k = none := fun _ => rfl
  refine ⟨⟨?_, .new, rfl, rfl⟩, ?_⟩
  · intro k trg htrg
    rw [hnone] at htrg
    cases htrg
  · intro k _
    refine ⟨rfl, rfl, ?_⟩
    intro trg htrg
    rw [hnone] at htrg
    cases htrg

theorem TriggerWorld.Owned.managed (h : w.Owned) (hkept : w.KeepsType move)
    (hstep : w.Managed lib parse move w') : w'.Owned := by
  obtain ⟨hvalid, result, hrun⟩ := hstep
  have hclear := (h.owns move.name hvalid).clear h.sound hkept
  obtain ⟨hsound, howns, hframed⟩ :=
    completes_reconcileTrigger (h.sound.edit hvalid) hvalid hclear hrun
  refine ⟨hsound, fun k hk => ?_⟩
  by_cases hname : k = move.name
  · subst hname
    exact howns
  · exact ((Framed.edit h.sound).trans hframed).owns hvalid hk hname (h.owns k hk)

theorem CronScheduler.Coherent.isSome_entries {s : CronScheduler} (h : s.Coherent) (key : String) :
    (s.entries key).isSome ↔ (s.job key).isSome := by
  rw [Option.isSome_iff_ne_none, Option.isSome_iff_ne_none, ne_eq, ne_eq, h.job_eq_none]

end Edits

/-! ## Edits that can be carried out -/

def TriggerReq.serve (lib : GoLib) (parse : String → Option String) (w : TriggerWorld) :
    (q : TriggerReq) → Option (q.Reply × TriggerWorld)
  | .get name =>
    match w.triggers name with
    | some trg => some (.ok trg, w)
    | none => some (.error (.notFound "not found"), w)
  | .update trg => some (.ok trg, w.put trg)
  | .cronRegister trg =>
    let (scheduler, err) := w.scheduler.register lib parse trg
    some (err, { w with scheduler := scheduler })
  | .cronDeregister key => some ((), { w with scheduler := w.scheduler.deregister key })
  | .watcherRegister trg => some ((), { w with rw := w.rw.register trg })
  | .watcherDeregister key => some ((), { w with rw := w.rw.deregister key })
  | .patchStatus name report => some (none, w.report name report)
  | .ensureWebhookGateway _ | .cleanupWebhookGatewayIfUnused _
  | .syncCredentialResolutionCondition _ => some (none, w)
  | .syncPluginIntegrationRefCondition _ => some (.ok "", w)

def TriggerWorld.manage (lib : GoLib) (parse : String → Option String) (w : TriggerWorld)
    (move : TriggerMove) : Option TriggerWorld :=
  match (reconcileTrigger move.name).simulate (TriggerReq.serve lib parse) (w.edit move) with
  | (_, w', some (.ok _)) => some w'
  | _ => none

theorem TriggerReq.serve_sound {lib : GoLib} {parse : String → Option String} {w w' : TriggerWorld}
    {q : TriggerReq} {x : q.Reply} (h : TriggerReq.serve lib parse w q = some (x, w')) :
    TriggerReq.env lib parse w q x w' := by
  cases q with
  | get name =>
    simp only [TriggerReq.serve] at h
    split at h
    next trg htrg =>
      cases h
      exact ⟨rfl, htrg⟩
    next hnone =>
      cases h
      exact ⟨rfl, hnone⟩
  | update | cronRegister =>
    cases h
    exact ⟨rfl, rfl⟩
  | _ =>
    cases h
    rfl

theorem TriggerWorld.manage_managed {lib : GoLib} {parse : String → Option String}
    {w w' : TriggerWorld} {move : TriggerMove} (hvalid : move.name.Admitted)
    (h : w.manage lib parse move = some w') : w.Managed lib parse move w' := by
  have hexec := @Program.simulate_exec _ _ _ _ _ (TriggerReq.serve lib parse)
    (fun _ _ _ _ => TriggerReq.serve_sound) (w.edit move) (reconcileTrigger move.name)
  unfold TriggerWorld.manage at h
  split at h
  next tr w₁ result heq =>
    cases h
    rw [heq] at hexec
    exact ⟨hvalid, result, tr, hexec⟩
  · cases h

/-- Where no Trigger that runs is given another type, there is an entry for exactly the Triggers
with a cron source, with the schedule and the flow they have, and a watcher for exactly those
with a resource source. -/
theorem trigger_sources_owned {lib : GoLib} {parse : String → Option String}
    {moves : List TriggerMove} {w : TriggerWorld}
    (hrun : Run (fun w move w' => w.KeepsType move ∧ w.Managed lib parse move w')
      TriggerWorld.start moves w) {k : NamespacedName} (hk : k.Admitted) :
    ((w.scheduler.entries k.slashed).isSome ↔ ∃ trg, w.triggers k = some trg ∧
      trg.metadata.deletionTimestamp = none ∧ trg.spec.type = .cron ∧
      trg.spec.enabled = true ∧ trg.spec.cron.isSome) ∧
    (∀ id, w.scheduler.entries k.slashed = some id → ∃ trg cron,
      w.triggers k = some trg ∧ trg.spec.cron = some cron ∧
      w.scheduler.jobs id = some ⟨CronScheduler.scheduleText cron, k, trg.spec.flowRef⟩) ∧
    ((w.rw.watchers k.slashed).isSome ↔ ∃ trg, w.triggers k = some trg ∧
      trg.metadata.deletionTimestamp = none ∧ trg.spec.type = .resource ∧
      trg.spec.enabled = true ∧ trg.spec.resource.isSome) := by
  have howned : w.Owned := hrun.always TriggerWorld.Owned .start fun _ _ _ h hstep =>
    h.managed hstep.1 hstep.2
  have howns := howned.owns k hk
  refine ⟨?_, ?_, ?_⟩
  · simp only [howned.sound.coherent.isSome_entries, howns.cron, Option.isSome_bind,
      Option.any_eq_true, isSome_cronJob_iff]
  · intro id hid
    obtain ⟨job, hjob, -⟩ := howned.sound.coherent.owned _ _ hid
    have hwanted : (w.triggers k).bind Trigger.cronJob = some job := by
      rw [← howns.cron, CronScheduler.job, hid]
      exact hjob
    obtain ⟨trg, htrg, hcron⟩ := Option.bind_eq_some_iff.mp hwanted
    unfold Trigger.cronJob at hcron
    split_ifs at hcron
    obtain ⟨cron, hspec, rfl⟩ := Option.map_eq_some_iff.mp hcron
    rw [(howned.sound.named k trg htrg).1] at hjob
    exact ⟨trg, cron, htrg, hspec, hjob⟩
  · rw [← Option.isSome_map, howns.resource]
    simp only [Option.isSome_bind, Option.any_eq_true, isSome_watchSpec_iff]

instance (w : TriggerWorld) (move : TriggerMove) : Decidable (w.KeepsType move) :=
  match move with
  | .put trg => inferInstanceAs (Decidable (∀ old ∈ w.triggers trg.key, _ ∧ _))
  | .delete .. => inferInstanceAs (Decidable True)

/-- The moves are made one after the other, where none gives another type to a Trigger that runs. -/
def TriggerWorld.manageAll (w : TriggerWorld) (moves : List TriggerMove) : Option TriggerWorld :=
  moves.foldlM (fun w move => if w.KeepsType move ∧ move.name.Admitted then
    w.manage default (fun _ => none) move else none) w

theorem TriggerWorld.manageAll_run {w w' : TriggerWorld} {moves : List TriggerMove}
    (h : w.manageAll moves = some w') :
    Run (fun w move w' => w.KeepsType move ∧ w.Managed default (fun _ => none) move w')
      w moves w' := by
  refine Run.foldlM ?_ h
  intro _ _ _ _ _ hmove
  obtain ⟨⟨hkeeps, hname⟩, hmanage⟩ := Option.ite_none_right_eq_some.mp hmove
  exact ⟨hkeeps, manage_managed hname hmanage⟩

def nightlyTrigger (schedule : String) : Trigger where
  metadata := { name := ⟨"team", "nightly"⟩ }
  spec := { type := .cron, cron := some ⟨schedule, ""⟩, flowRef := "report" }

def nightlyWebhook : Trigger :=
  let nightly := nightlyTrigger "0 2 * * *"
  { nightly with spec := { nightly.spec with type := .webhook } }

def podAudit (enabled : Bool) : Trigger where
  metadata := { name := ⟨"team", "pods"⟩ }
  spec :=
    { type := .resource
      enabled := enabled
      resource := some { apiVersion := "v1", kind := "Pod" }
      flowRef := "audit" }

/-- The schedule is changed, and the watch of the Pods is begun and ended. -/
theorem nightly_scheduled : ∃ w : TriggerWorld,
    Run (fun w move w' => w.KeepsType move ∧ w.Managed default (fun _ => none) move w') .start
      [.put (nightlyTrigger "0 2 * * *"), .put (podAudit true),
        .put (nightlyTrigger "0 4 * * *"), .put (podAudit false)] w ∧
    (∃ id, w.scheduler.entries "team/nightly" = some id ∧
      w.scheduler.jobs id = some ⟨"0 4 * * *", ⟨"team", "nightly"⟩, "report"⟩) ∧
    (w.rw.watchers "team/pods").isSome = false := by
  have hexec : (TriggerWorld.start.manageAll [.put (nightlyTrigger "0 2 * * *"),
      .put (podAudit true), .put (nightlyTrigger "0 4 * * *"), .put (podAudit false)]).any
      (fun w => ((w.triggers ⟨"team", "nightly"⟩).any fun trg =>
          decide (trg.metadata.deletionTimestamp = none) &&
            decide (trg.spec = (nightlyTrigger "0 4 * * *").spec)) &&
        decide ((w.triggers ⟨"team", "pods"⟩).map (·.spec.enabled) = some false)) = true := by
    decide
  obtain ⟨w, hw, hfacts⟩ := (Option.any_eq_true _ _).mp hexec
  obtain ⟨hnightly, hpods⟩ := Bool.and_eq_true_iff.mp hfacts
  obtain ⟨trg, htrg, hspec⟩ := (Option.any_eq_true _ _).mp hnightly
  obtain ⟨hlive, hspec⟩ := Bool.and_eq_true_iff.mp hspec
  replace hlive := of_decide_eq_true hlive
  replace hspec := of_decide_eq_true hspec
  have hrun := TriggerWorld.manageAll_run hw
  have howned := @trigger_sources_owned _ _ _ _ hrun ⟨"team", "nightly"⟩ (by decide)
  have hentry := howned.1.mpr ⟨trg, htrg, hlive, by simp [hspec, nightlyTrigger]⟩
  obtain ⟨id, hid⟩ := Option.isSome_iff_exists.mp hentry
  obtain ⟨trg', cron, htrg', hcron, hjob⟩ := howned.2.1 id hid
  obtain rfl : trg = trg' := Option.some.inj (htrg.symm.trans htrg')
  rw [hspec] at hcron hjob
  cases hcron
  refine ⟨w, hrun, ⟨id, hid, hjob⟩, ?_⟩
  rw [Bool.eq_false_iff]
  intro hwatched
  obtain ⟨trg', htrg', -, -, hon, -⟩ :=
    (@trigger_sources_owned _ _ _ _ hrun ⟨"team", "pods"⟩ (by decide)).2.2.mp hwatched
  have hoff := of_decide_eq_true hpods
  rw [htrg', Option.map_some, hon] at hoff
  cases hoff

/-- After the type has changed the entry of the old one still runs. -/
theorem nightly_still_scheduled : ∃ w : TriggerWorld,
    Run (TriggerWorld.Managed default fun _ => none) .start
      [.put (nightlyTrigger "0 2 * * *"), .put nightlyWebhook] w ∧
    (w.triggers ⟨"team", "nightly"⟩).map (·.spec.type) = some .webhook ∧
    (w.scheduler.entries "team/nightly").isSome := by
  have hexec : ((TriggerWorld.start.manage default (fun _ => none)
        (.put (nightlyTrigger "0 2 * * *"))).any fun w =>
      (w.manage default (fun _ => none) (.put nightlyWebhook)).any fun w =>
        decide ((w.triggers ⟨"team", "nightly"⟩).map (·.spec.type) = some .webhook) &&
          (w.scheduler.entries "team/nightly").isSome) = true := by decide
  obtain ⟨w, hw, hexec⟩ := (Option.any_eq_true _ _).mp hexec
  obtain ⟨w', hw', hfacts⟩ := (Option.any_eq_true _ _).mp hexec
  obtain ⟨htype, hentry⟩ := Bool.and_eq_true_iff.mp hfacts
  have hcron : TriggerWorld.start.Managed default (fun _ => none)
      (.put (nightlyTrigger "0 2 * * *")) w := TriggerWorld.manage_managed (by decide) hw
  have hwebhook : w.Managed default (fun _ => none) (.put nightlyWebhook) w' :=
    TriggerWorld.manage_managed (by decide) hw'
  exact ⟨w', Run.snoc (Run.snoc .nil hcron) hwebhook, of_decide_eq_true htype, hentry⟩

end KubeZap
