import KubeZap.Controller.TriggerReconcile

/-! # What a reconcile of a Trigger leaves

The table of the cron scheduler, and for each branch of the reconcile what a successful
one has done to the Triggers, the scheduler and the watcher.
-/

namespace KubeZap

open Foundation Function

/-! ## The table of the scheduler -/

namespace CronScheduler

/-- Every entry has its job, which is that of a Trigger with the key of the entry, and
every job has its entry. -/
structure Coherent (s : CronScheduler) : Prop where
  fresh : ∀ id job, s.jobs id = some job → id < s.nextID
  owned : ∀ key id, s.entries key = some id → ∃ job, s.jobs id = some job ∧ job.name.slashed = key
  listed : ∀ id job, s.jobs id = some job → s.entries job.name.slashed = some id

def job (s : CronScheduler) (key : String) : Option CronJob := (s.entries key).bind s.jobs

variable {s : CronScheduler}

theorem Coherent.new : CronScheduler.new.Coherent := ⟨nofun, nofun, nofun⟩

theorem Coherent.job_eq_none (h : s.Coherent) {key : String} :
    s.job key = none ↔ s.entries key = none := by
  unfold job
  cases hid : s.entries key with
  | none => simp
  | some id =>
    obtain ⟨job, hjob, -⟩ := h.owned key id hid
    simp [hjob]

theorem Coherent.id_ne (h : s.Coherent) {key key' : String} {id id' : Nat} (hne : key' ≠ key)
    (hid : s.entries key = some id) (hid' : s.entries key' = some id') : id' ≠ id := by
  rintro rfl
  obtain ⟨job, hjob, hname⟩ := h.owned key id' hid
  obtain ⟨job', hjob', hname'⟩ := h.owned key' id' hid'
  rw [hjob] at hjob'
  cases hjob'
  exact hne (hname'.symm.trans hname)

theorem Coherent.deregister (h : s.Coherent) (key : String) : (s.deregister key).Coherent := by
  unfold CronScheduler.deregister
  split
  · exact h
  next id hid =>
    have hjob_ne : ∀ id' job, update s.jobs id none id' = some job →
        id' ≠ id ∧ s.jobs id' = some job := by
      intro id' job hjob
      by_cases hne : id' = id
      · simp [hne] at hjob
      · exact ⟨hne, by rwa [update_of_ne hne] at hjob⟩
    refine ⟨?_, ?_, ?_⟩
    · exact fun id' job hjob => h.fresh id' job (hjob_ne id' job hjob).2
    · intro key' id' hid'
      simp only [update_apply] at hid'
      split at hid'
      · cases hid'
      next hne =>
        obtain ⟨job, hjob, hname⟩ := h.owned key' id' hid'
        refine ⟨job, ?_, hname⟩
        simpa only [update_of_ne (h.id_ne hne hid hid')] using hjob
    · intro id' job hjob
      obtain ⟨hne, hold⟩ := hjob_ne id' job hjob
      have hlisted := h.listed id' job hold
      have hother : job.name.slashed ≠ key := by
        intro heq
        rw [heq, hid] at hlisted
        exact hne (Option.some.inj hlisted).symm
      simpa only [update_of_ne hother] using hlisted

theorem entries_deregister (s : CronScheduler) (key : String) :
    (s.deregister key).entries = update s.entries key none := by
  unfold CronScheduler.deregister
  split
  next hnone => rw [← hnone, update_eq_self]
  · rfl

theorem job_deregister_self (s : CronScheduler) (key : String) : (s.deregister key).job key = none := by
  simp [job, entries_deregister]

theorem Coherent.job_deregister_of_ne (h : s.Coherent) {key key' : String} (hne : key' ≠ key) :
    (s.deregister key).job key' = s.job key' := by
  unfold job CronScheduler.deregister
  split
  · rfl
  next id hid =>
    simp only [update_of_ne hne]
    cases hid' : s.entries key' with
    | none => rfl
    | some id' => simp [update_of_ne (h.id_ne hne hid hid')]

def added (s : CronScheduler) (job : CronJob) : CronScheduler where
  jobs := update s.jobs s.nextID (some job)
  nextID := s.nextID + 1
  entries := update s.entries job.name.slashed (some s.nextID)

theorem Coherent.added (h : s.Coherent) {job : CronJob}
    (hnone : s.entries job.name.slashed = none) : (s.added job).Coherent := by
  have hold : ∀ id job', s.jobs id = some job' → id ≠ s.nextID :=
    fun id job' hjob => (h.fresh id job' hjob).ne
  refine ⟨?_, ?_, ?_⟩
  · intro id job' hjob
    simp only [CronScheduler.added, update_apply] at hjob
    split at hjob
    next hid =>
      rw [hid]
      exact Nat.lt_succ_self _
    · exact Nat.lt_succ_of_lt (h.fresh id job' hjob)
  · intro key id hid
    simp only [CronScheduler.added, update_apply] at hid
    split at hid
    next hkey =>
      cases hid
      exact ⟨job, by simp [CronScheduler.added], hkey.symm⟩
    · obtain ⟨job', hjob', hname⟩ := h.owned key id hid
      exact ⟨job', by simpa [CronScheduler.added, update_of_ne (hold id job' hjob')], hname⟩
  · intro id job' hjob
    simp only [CronScheduler.added, update_apply] at hjob
    split at hjob
    next hid =>
      cases hjob
      simp [CronScheduler.added, hid]
    · have hlisted := h.listed id job' hjob
      have hother : job'.name.slashed ≠ job.name.slashed := by
        intro heq
        rw [heq, hnone] at hlisted
        cases hlisted
      simpa only [CronScheduler.added, update_of_ne hother] using hlisted

theorem Coherent.job_added_of_ne (h : s.Coherent) {job : CronJob} {key : String}
    (hne : key ≠ job.name.slashed) : (s.added job).job key = s.job key := by
  simp only [CronScheduler.job, CronScheduler.added, update_of_ne hne]
  cases hid : s.entries key with
  | none => rfl
  | some id =>
    obtain ⟨job', hjob', -⟩ := h.owned key id hid
    simp [update_of_ne (h.fresh id job' hjob').ne]

end CronScheduler

/-! ## What one reconcile does -/

section Reconcile

variable {lib : GoLib} {parse : String → Option String} {name : NamespacedName}
variable {trg trg' : Trigger} {w w' : TriggerWorld}

structure TriggerWorld.Holds (w : TriggerWorld) (name : NamespacedName) (trg : Trigger) : Prop where
  stored : w.triggers name = some trg
  key : trg.key = name
  live : trg.metadata.deletionTimestamp = none

/-- Only the object of the name may have changed: it has got finalizers, or a status. -/
structure Rewritten (name : NamespacedName) (trg : Trigger) (w : TriggerWorld) (trg' : Trigger)
    (w' : TriggerWorld) : Prop where
  holds : w'.Holds name trg'
  spec : trg'.spec = trg.spec
  finalizers : trg.metadata.finalizers ⊆ trg'.metadata.finalizers
  others : ∀ k, k ≠ name → w'.triggers k = w.triggers k
  scheduler : w'.scheduler = w.scheduler
  watcher : w'.rw = w.rw

theorem Rewritten.refl (h : w.Holds name trg) : Rewritten name trg w trg w :=
  ⟨h, rfl, List.Subset.refl _, fun _ _ => rfl, rfl, rfl⟩

theorem triggers_put_self (hkey : trg.key = name) : (w.put trg).triggers name = trg.kept := by
  simp [TriggerWorld.put, hkey]

theorem triggers_put_of_ne {k : NamespacedName} (hk : k ≠ trg.key) :
    (w.put trg).triggers k = w.triggers k := by
  simp [TriggerWorld.put, update_of_ne hk]

theorem eq_of_kept (h : trg.kept = some trg') : trg' = trg := by
  unfold Trigger.kept at h
  split_ifs at h
  exact (Option.some.inj h).symm

theorem Rewritten.update (h : w.Holds name trg) {finalizers : List String}
    (hfinalizers : trg.metadata.finalizers ⊆ finalizers) :
    Rewritten name trg w (trg.withFinalizers finalizers) (w.put (trg.withFinalizers finalizers)) := by
  have hkey : (trg.withFinalizers finalizers).key = name := h.key
  have hkept : (trg.withFinalizers finalizers).kept = some (trg.withFinalizers finalizers) := by
    simp [Trigger.kept, Trigger.withFinalizers, h.live]
  refine ⟨⟨?_, hkey, h.live⟩, rfl, hfinalizers, ?_, rfl, rfl⟩
  · rw [triggers_put_self hkey, hkept]
  · intro k hk
    exact triggers_put_of_ne (hkey.symm ▸ hk)

theorem completes_ensureFinalizer {finalizer : String} (h : w.Holds name trg)
    (hrun : Completes (TriggerReq.env lib parse) w (ensureFinalizer trg finalizer) w' (.ok trg')) :
    Rewritten name trg w trg' w' ∧ finalizer ∈ trg'.metadata.finalizers := by
  unfold ensureFinalizer at hrun
  split at hrun
  next hmem =>
    simp only [completes_return, Except.ok.injEq] at hrun
    obtain ⟨rfl, rfl⟩ := hrun
    exact ⟨.refl h, hmem⟩
  · simp only [TriggerReq.send, Program.request, completes_call, completes_pure] at hrun
    obtain ⟨x, w₁, henv, rfl, rfl⟩ := hrun
    obtain ⟨rfl, rfl⟩ := henv
    exact ⟨.update h (List.subset_append_left _ _), List.mem_append_right _ (List.mem_singleton_self _)⟩

def cronAfter (lib : GoLib) (parse : String → Option String) (s : CronScheduler)
    (name : NamespacedName) (trg : Trigger) : CronScheduler :=
  if trg.spec.type ≠ .cron then s
  else if trg.spec.enabled = true ∧ trg.spec.cron.isSome then (s.register lib parse trg).1
  else s.deregister name.slashed

theorem completes_reconcileCron (h : w.Holds name trg)
    (hrun : Completes (TriggerReq.env lib parse) w (reconcileCron name trg) w' (.ok trg')) :
    Rewritten name trg { w with scheduler := w'.scheduler } trg' w' ∧
      w'.scheduler = cronAfter lib parse w.scheduler name trg ∧
      (trg.spec.type = .cron → trg.spec.enabled = true ∧ trg.spec.cron.isSome →
        (w.scheduler.register lib parse trg).2 = none ∧
          cronTriggerFinalizer ∈ trg'.metadata.finalizers) := by
  unfold reconcileCron at hrun
  unfold cronAfter
  split at hrun
  next htype =>
    simp only [completes_return, Except.ok.injEq] at hrun
    obtain ⟨rfl, rfl⟩ := hrun
    exact ⟨.refl h, (if_pos htype).symm, fun heq => absurd heq htype⟩
  next htype =>
    rw [if_neg htype]
    split at hrun
    next hon =>
      rw [if_pos hon]
      obtain ⟨trg₁, w₁, hensure, hregister⟩ := completes_tryThen.mp hrun
      obtain ⟨hrewritten, hfinalizer⟩ := completes_ensureFinalizer h hensure
      simp only [TriggerReq.send, completes_request] at hregister
      obtain ⟨reply, w₂, ⟨rfl, hreply⟩, hret⟩ := hregister
      cases reply with
      | some err => simp at hret
      | none =>
        simp only [completes_return, Except.ok.injEq] at hret
        obtain ⟨rfl, rfl⟩ := hret
        have hkey : trg'.key = trg.key := hrewritten.holds.key.trans h.key.symm
        simp only [CronScheduler.register, hkey, hrewritten.spec, hrewritten.scheduler] at hreply ⊢
        refine ⟨?_, trivial, fun _ _ => ⟨hreply.symm, hfinalizer⟩⟩
        exact ⟨⟨hrewritten.holds.stored, hrewritten.holds.key, hrewritten.holds.live⟩,
          hrewritten.spec, hrewritten.finalizers, hrewritten.others, rfl, hrewritten.watcher⟩
    next hoff =>
      rw [if_neg hoff]
      simp only [TriggerReq.send, completes_request, completes_return,
        Except.ok.injEq] at hrun
      obtain ⟨_, w₁, rfl, rfl, rfl⟩ := hrun
      exact ⟨.refl ⟨h.stored, h.key, h.live⟩, rfl,
        fun _ hon => absurd hon hoff⟩

theorem completes_reconcileWebhook
    (hrun : Completes (TriggerReq.env lib parse) w (reconcileWebhook trg) w' (.ok ())) : w' = w := by
  unfold reconcileWebhook at hrun
  split_ifs at hrun
  · exact (completes_return.mp hrun).1
  · simp only [TriggerReq.send, completes_request, completes_return] at hrun
    obtain ⟨_, w₁, rfl, rfl, -⟩ := hrun
    rfl
  · simp only [TriggerReq.send, completes_request, completes_return] at hrun
    obtain ⟨_, w₁, rfl, rfl, -⟩ := hrun
    rfl

/-- The resource watcher after `reconcileResource`, which hands it the object `stored` that carries
the finalizer. -/
def watchAfter (rw : ResourceWatcher) (name : NamespacedName) (trg stored : Trigger) :
    ResourceWatcher :=
  if trg.spec.type ≠ .resource then rw
  else if trg.spec.enabled = true ∧ trg.spec.resource.isSome then rw.register stored
  else rw.deregister name.slashed

theorem completes_reconcileResource (h : w.Holds name trg)
    (hrun : Completes (TriggerReq.env lib parse) w (reconcileResource name trg) w' (.ok ())) :
    ∃ trg', Rewritten name trg { w with rw := w'.rw } trg' w' ∧
      w'.rw = watchAfter w.rw name trg trg' ∧
      (trg.spec.type = .resource → trg.spec.enabled = true ∧ trg.spec.resource.isSome →
        resourceTriggerFinalizer ∈ trg'.metadata.finalizers) := by
  unfold reconcileResource at hrun
  unfold watchAfter
  split at hrun
  next htype =>
    obtain ⟨rfl, -⟩ := completes_return.mp hrun
    exact ⟨trg, .refl h, (if_pos htype).symm, fun heq => absurd heq htype⟩
  next htype =>
    simp only [if_neg htype]
    split at hrun
    next hon =>
      simp only [if_pos hon]
      obtain ⟨trg₁, w₁, hensure, hregister⟩ := completes_tryThen.mp hrun
      obtain ⟨hrewritten, hfinalizer⟩ := completes_ensureFinalizer h hensure
      simp only [TriggerReq.send, completes_request, completes_return] at hregister
      obtain ⟨_, w₂, rfl, rfl, -⟩ := hregister
      refine ⟨trg₁, ?_, by rw [hrewritten.watcher], fun _ _ => hfinalizer⟩
      exact ⟨⟨hrewritten.holds.stored, hrewritten.holds.key, hrewritten.holds.live⟩,
        hrewritten.spec, hrewritten.finalizers, hrewritten.others, hrewritten.scheduler, rfl⟩
    next hoff =>
      simp only [if_neg hoff]
      simp only [TriggerReq.send, completes_request, completes_return] at hrun
      obtain ⟨_, w₁, rfl, rfl, -⟩ := hrun
      exact ⟨trg, .refl ⟨h.stored, h.key, h.live⟩, rfl, fun _ hon => absurd hon hoff⟩

theorem Rewritten.report (h : w.Holds name trg) (report : TriggerReport) :
    ∃ trg', Rewritten name trg w trg' (w.report name report) := by
  refine ⟨{ trg with status := { trg.status with
    lastResult := report.lastResult.getD trg.status.lastResult } }, ⟨?_, h.key, h.live⟩, rfl,
    List.Subset.refl _, ?_, rfl, rfl⟩
  · simp [TriggerWorld.report, h.stored]
  · intro k hk
    simp [TriggerWorld.report, update_of_ne hk]

theorem completes_reconcileStatus {result : Option Duration} (h : w.Holds name trg)
    (hrun : Completes (TriggerReq.env lib parse) w (reconcileStatus name) w' (.ok result)) :
    ∃ trg', Rewritten name trg w trg' w' := by
  simp only [reconcileStatus, TriggerReq.send, completes_request] at hrun
  obtain ⟨x, w₁, ⟨rfl, hread⟩, hrun⟩ := hrun
  rcases x with (_ | _) | read
  · rw [h.stored] at hread
    cases hread
  · simp at hrun
  · rw [h.stored] at hread
    cases hread
    obtain ⟨_, w₂, hcredentials, hrest⟩ := completes_tryThen.mp hrun
    obtain ⟨pluginRefErr, w₃, hplugin, hpatch⟩ := completes_tryThen.mp hrest
    -- the two checks of an Integration change nothing here
    have hsame₂ : w₂ = w₁ := by
      split_ifs at hcredentials
      · simp only [completes_request, completes_return] at hcredentials
        obtain ⟨_, w₄, rfl, rfl, -⟩ := hcredentials
        rfl
      · exact (completes_return.mp hcredentials).1
    have hsame₃ : w₃ = w₂ := by
      split_ifs at hplugin
      · simp only [Program.request, completes_call, completes_pure] at hplugin
        obtain ⟨_, w₄, rfl, rfl, -⟩ := hplugin
        rfl
      · exact (completes_return.mp hplugin).1
    rw [hsame₃, hsame₂, completes_request] at hpatch
    obtain ⟨reply, w₄, hreply, hret⟩ := hpatch
    cases reply with
    | some err => simp at hret
    | none =>
      obtain rfl : w' = w₄ := by
        simp only at hret
        split_ifs at hret <;> exact (completes_return.mp hret).1
      obtain rfl : w' = w₁.report name _ := hreply
      exact Rewritten.report h _

structure Detached (name : NamespacedName) (w w' : TriggerWorld) : Prop where
  deleting : ∀ trg, w'.triggers name = some trg →
    trg.key = name ∧ trg.metadata.deletionTimestamp.isSome
  others : ∀ k, k ≠ name → w'.triggers k = w.triggers k
  scheduler : w'.scheduler = w.scheduler.deregister name.slashed
  watcher : w'.rw = w.rw.deregister name.slashed

theorem completes_reconcileDeletion {result : Option Duration}
    (hstored : w.triggers name = some trg) (hkey : trg.key = name)
    (hdeleting : trg.metadata.deletionTimestamp.isSome)
    (hrun : Completes (TriggerReq.env lib parse) w (reconcileDeletion name trg) w' (.ok result)) :
    Detached name w w' := by
  simp only [reconcileDeletion, TriggerReq.send, completes_request] at hrun
  obtain ⟨_, w₁, rfl, _, w₂, rfl, hrun⟩ := hrun
  obtain ⟨trg₁, w₃, hupdate, hcleanup⟩ := completes_tryThen.mp hrun
  obtain rfl : w' = w₃ := by
    split_ifs at hcleanup
    · simp only [completes_request] at hcleanup
      obtain ⟨reply, w₄, rfl, hret⟩ := hcleanup
      cases reply with
      | some err => simp at hret
      | none => exact (completes_return.mp hret).1
    · exact (completes_return.mp hcleanup).1
  split_ifs at hupdate
  · simp only [Program.request, completes_call, completes_pure] at hupdate
    obtain ⟨_, w₄, hput, rfl, rfl⟩ := hupdate
    obtain ⟨rfl, rfl⟩ := hput
    have hkey₁ : ∀ finalizers, (trg.withFinalizers finalizers).key = name := fun _ => hkey
    refine ⟨?_, ?_, rfl, rfl⟩
    · intro trg' htrg'
      rw [triggers_put_self (hkey₁ _)] at htrg'
      obtain rfl := eq_of_kept htrg'
      exact ⟨hkey, hdeleting⟩
    · intro k hk
      rw [triggers_put_of_ne ((hkey₁ _).symm ▸ hk)]
  · obtain ⟨rfl, -⟩ := completes_return.mp hupdate
    refine ⟨?_, fun _ _ => rfl, rfl, rfl⟩
    intro trg' htrg'
    rw [hstored] at htrg'
    cases htrg'
    exact ⟨hkey, hdeleting⟩

/-- What the reconcile of a Trigger that is not being deleted leaves: the Trigger with its
finalizers, and the two sources as their branches leave them. -/
structure Attached (lib : GoLib) (parse : String → Option String) (name : NamespacedName)
    (trg : Trigger) (w : TriggerWorld) (trg' : Trigger) (w' : TriggerWorld) : Prop where
  holds : w'.Holds name trg'
  spec : trg'.spec = trg.spec
  others : ∀ k, k ≠ name → w'.triggers k = w.triggers k
  scheduler : w'.scheduler = cronAfter lib parse w.scheduler name trg
  accepted : trg.spec.type = .cron → trg.spec.enabled = true ∧ trg.spec.cron.isSome →
    (w.scheduler.register lib parse trg).2 = none ∧
      cronTriggerFinalizer ∈ trg'.metadata.finalizers
  watcher : ∃ stored : Trigger, stored.key = name ∧ stored.spec = trg.spec ∧
    w'.rw = watchAfter w.rw name trg stored
  watched : trg.spec.type = .resource → trg.spec.enabled = true ∧ trg.spec.resource.isSome →
    resourceTriggerFinalizer ∈ trg'.metadata.finalizers

theorem completes_live {result : Option Duration} (h : w.Holds name trg)
    (hrun : Completes (TriggerReq.env lib parse) w
      ((reconcileCron name trg).tryThen fun trg =>
        (reconcileWebhook trg).tryThen fun _ =>
          (reconcileResource name trg).tryThen fun _ => reconcileStatus name) w' (.ok result)) :
    ∃ trg', Attached lib parse name trg w trg' w' := by
  obtain ⟨trg₁, w₁, hcron, hrun₁⟩ := completes_tryThen.mp hrun
  obtain ⟨hrewritten₁, hscheduler, haccepted⟩ := completes_reconcileCron h hcron
  obtain ⟨_, w₂, hwebhook, hrun₂⟩ := completes_tryThen.mp hrun₁
  obtain rfl := completes_reconcileWebhook hwebhook
  obtain ⟨_, w₃, hresource, hstatus⟩ := completes_tryThen.mp hrun₂
  obtain ⟨trg₂, hrewritten₂, hwatcher, hwatched⟩ :=
    completes_reconcileResource hrewritten₁.holds hresource
  obtain ⟨trg₃, hrewritten₃⟩ := completes_reconcileStatus hrewritten₂.holds hstatus
  have hspec₂ := hrewritten₂.spec.trans hrewritten₁.spec
  have hfinalizers := List.Subset.trans hrewritten₂.finalizers hrewritten₃.finalizers
  refine ⟨trg₃, hrewritten₃.holds, hrewritten₃.spec.trans hspec₂, ?_, ?_, ?_, ?_, ?_⟩
  · intro k hk
    rw [hrewritten₃.others k hk, hrewritten₂.others k hk, hrewritten₁.others k hk]
  · rw [hrewritten₃.scheduler, hrewritten₂.scheduler, hscheduler]
  · intro htype hon
    obtain ⟨hok, hmem⟩ := haccepted htype hon
    exact ⟨hok, hfinalizers hmem⟩
  · refine ⟨trg₂, hrewritten₂.holds.key, hspec₂, ?_⟩
    rw [hrewritten₃.watcher, hwatcher, hrewritten₁.watcher]
    simp only [watchAfter, hrewritten₁.spec]
  · intro htype hon
    rw [← hrewritten₁.spec] at htype hon
    exact hrewritten₃.finalizers (hwatched htype hon)

end Reconcile

end KubeZap
