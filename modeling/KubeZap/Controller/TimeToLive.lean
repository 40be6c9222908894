import KubeZap.Controller.Simulation

/-! # The time to live of ended FlowRuns

Three places can set how long an ended FlowRun is kept: the FlowRun itself, the policy
of its Trigger, and the flags of the operator, where zero means that nothing is set.
`explicitTTL` is the first of them that is set. `reconcileGC` goes by it except in one
case: an explicit zero is taken for an unset flag.
-/

namespace KubeZap

open Foundation

/-! ## The setting that applies -/

def triggerTTL (policy : Option FlowRunGCPolicy) (phase : FlowRunPhase) : Option Duration :=
  policy.bind fun gc =>
    match phase with
    | .succeeded => gc.ttlAfterSucceeded
    | .failed => gc.ttlAfterFailed
    | .empty | .pending | .running | .cancelled => none

def operatorTTL (r : FlowRunReconciler) (phase : FlowRunPhase) : Option Duration :=
  let flag := if phase = .failed then r.ttlFailed else r.ttlSucceeded
  if flag = 0 then none else some flag

def explicitTTL (r : FlowRunReconciler) (flowRun : FlowRun) (policy : Option FlowRunGCPolicy) :
    Option Duration :=
  flowRun.spec.ttlAfterFinished.or
    ((triggerTTL policy flowRun.status.phase).or (operatorTTL r flowRun.status.phase))

theorem gcTTL_eq (r : FlowRunReconciler) (flowRun : FlowRun) (policy : Option FlowRunGCPolicy) :
    gcTTL r flowRun policy = (explicitTTL r flowRun policy).getD 0 := by
  have hoperator : (operatorTTL r flowRun.status.phase).getD 0 =
      if flowRun.status.phase = .failed then r.ttlFailed else r.ttlSucceeded := by
    unfold operatorTTL
    dsimp only
    generalize (if flowRun.status.phase = .failed then r.ttlFailed else r.ttlSucceeded) = flag
    split
    · rename_i hzero
      exact hzero.symm
    · rfl
  have hgc : gcTTL r flowRun policy = flowRun.spec.ttlAfterFinished.getD
      ((triggerTTL policy flowRun.status.phase).getD
        (if flowRun.status.phase = .failed then r.ttlFailed else r.ttlSucceeded)) := by
    unfold gcTTL triggerTTL
    cases flowRun.status.phase <;> rfl
  rw [hgc, ← hoperator, explicitTTL]
  cases flowRun.spec.ttlAfterFinished with
  | some ttl => rfl
  | none => cases triggerTTL policy flowRun.status.phase <;> rfl

theorem explicitTTL_eq_some {r : FlowRunReconciler} {flowRun : FlowRun}
    {policy : Option FlowRunGCPolicy} (h : gcTTL r flowRun policy ≠ 0) :
    explicitTTL r flowRun policy = some (gcTTL r flowRun policy) := by
  rw [gcTTL_eq] at h ⊢
  cases hexplicit : explicitTTL r flowRun policy with
  | none =>
    rw [hexplicit] at h
    exact absurd rfl h
  | some ttl => rfl

theorem explicitTTL_eq_none {r : FlowRunReconciler} {flowRun : FlowRun}
    {policy : Option FlowRunGCPolicy} (hzero : explicitTTL r flowRun policy ≠ some 0)
    (h : gcTTL r flowRun policy = 0) : explicitTTL r flowRun policy = none := by
  rw [gcTTL_eq] at h
  cases hexplicit : explicitTTL r flowRun policy with
  | none => rfl
  | some ttl =>
    rw [hexplicit] at h hzero
    exact absurd (congrArg some h) hzero

/-! ## Runs of `reconcileGC` -/

def countBasedGC (flowRun : FlowRun) : Reconciler (Except ApiError Unit) :=
  if retained flowRun then pure (.ok ())
  else do
    let policy ← readGCPolicy flowRun
    enforceTriggerPolicy flowRun policy

/-- The requests of a collection, with the FlowRuns that were deleted: the Trigger has
the policy, the clock shows `now`, and no request fails. -/
def Collecting (policy : Option FlowRunGCPolicy) (now : Time) : Env (List FlowRun) Reply :=
  fun deleted q x deleted' =>
    match q, x with
    | .now, t => t = now ∧ deleted' = deleted
    | .getTrigger _, x =>
      (x = .ok policy ∨ policy = none ∧ ∃ msg, x = .error (.notFound msg)) ∧ deleted' = deleted
    | .listFlowRuns _ _, x => (∃ items, x = .ok items) ∧ deleted' = deleted
    | .delete flowRun, x =>
      (x = .ok () ∨ x = .error .notFound) ∧ deleted' = deleted ++ [flowRun]
    | _, _ => False

def PolicyOf (flowRun : FlowRun) (policy : Option FlowRunGCPolicy) : Prop :=
  (∃ name, flowRun.metadata.labels.lookup labelTrigger = some name ∧ name ≠ "") ∨ policy = none

section Runs

variable {r : FlowRunReconciler} {flowRun : FlowRun} {policy : Option FlowRunGCPolicy} {now : Time}
variable {deleted deleted' : List FlowRun}

theorem completes_readGCPolicy_collecting {found : Option FlowRunGCPolicy}
    (hpolicy : PolicyOf flowRun policy)
    (hrun : Completes (Collecting policy now) deleted (readGCPolicy flowRun) deleted' found) :
    found = policy ∧ deleted' = deleted := by
  unfold readGCPolicy at hrun
  rcases hpolicy with ⟨name, hlabel, hname⟩ | rfl
  · rw [hlabel] at hrun
    dsimp only at hrun
    rw [if_neg hname] at hrun
    obtain ⟨x, mid, ⟨hx, rfl⟩, hret⟩ := completes_request.mp hrun
    rcases hx with rfl | ⟨rfl, msg, rfl⟩
    · obtain ⟨rfl, rfl⟩ := completes_return.mp hret
      exact ⟨rfl, rfl⟩
    · obtain ⟨rfl, rfl⟩ := completes_return.mp hret
      exact ⟨rfl, rfl⟩
  · split at hrun
    · obtain ⟨rfl, rfl⟩ := completes_return.mp hrun
      exact ⟨rfl, rfl⟩
    · split at hrun
      · obtain ⟨rfl, rfl⟩ := completes_return.mp hrun
        exact ⟨rfl, rfl⟩
      · obtain ⟨x, mid, ⟨hx, rfl⟩, hret⟩ := completes_request.mp hrun
        rcases hx with rfl | ⟨_, msg, rfl⟩
        · obtain ⟨rfl, rfl⟩ := completes_return.mp hret
          exact ⟨rfl, rfl⟩
        · obtain ⟨rfl, rfl⟩ := completes_return.mp hret
          exact ⟨rfl, rfl⟩

theorem completes_delete_collecting {x : Except ApiError Unit}
    (hrun : Completes (Collecting policy now) deleted (deleteIgnoringNotFound flowRun) deleted' x) :
    x = .ok () ∧ deleted' = deleted ++ [flowRun] := by
  obtain ⟨y, mid, ⟨hy, rfl⟩, hret⟩ := completes_request.mp hrun
  rcases hy with rfl | rfl
  · obtain ⟨rfl, rfl⟩ := completes_return.mp hret
    exact ⟨rfl, rfl⟩
  · obtain ⟨rfl, rfl⟩ := completes_return.mp hret
    exact ⟨rfl, rfl⟩

theorem completes_deleteAll_collecting {items : List FlowRun} {x : Except ApiError Unit}
    (hrun : Completes (Collecting policy now) deleted (deleteAll items) deleted' x) :
    x = .ok () := by
  induction items generalizing deleted with
  | nil =>
    obtain ⟨rfl, rfl⟩ := completes_return.mp hrun
    rfl
  | cons item rest ih =>
    obtain ⟨y, mid, hdelete, hrest⟩ := completes_bind.mp hrun
    obtain ⟨rfl, rfl⟩ := completes_delete_collecting hdelete
    exact ih hrest

theorem completes_enforceMax_collecting {triggerName namespace_ : String} {phase : FlowRunPhase}
    {max : Option Int} {x : Except ApiError Unit} (hrun : Completes (Collecting policy now) deleted
      (enforceMax triggerName namespace_ phase max) deleted' x) :
    x = .ok () ∧ (max = none → deleted' = deleted) := by
  unfold enforceMax at hrun
  split at hrun
  · obtain ⟨rfl, rfl⟩ := completes_return.mp hrun
    exact ⟨rfl, fun _ => rfl⟩
  · refine ⟨?_, nofun⟩
    obtain ⟨y, mid, ⟨⟨items, rfl⟩, rfl⟩, hrest⟩ := completes_request.mp hrun
    dsimp only at hrest
    split at hrest
    · obtain ⟨rfl, rfl⟩ := completes_return.mp hrest
      rfl
    · exact completes_deleteAll_collecting hrest

theorem completes_enforceTriggerPolicy_collecting {x : Except ApiError Unit}
    (hrun : Completes (Collecting policy now) deleted (enforceTriggerPolicy flowRun policy)
      deleted' x) :
    x = .ok () ∧ ((∀ gc, policy = some gc → gc.maxSucceeded = none ∧ gc.maxFailed = none) →
      deleted' = deleted) := by
  unfold enforceTriggerPolicy at hrun
  split at hrun
  · obtain ⟨rfl, rfl⟩ := completes_return.mp hrun
    exact ⟨rfl, fun _ => rfl⟩
  · rename_i gc
    obtain ⟨y, mid, hsucceeded, hrest⟩ := completes_bind.mp hrun
    obtain ⟨rfl, hnone⟩ := completes_enforceMax_collecting hsucceeded
    obtain ⟨rfl, hnone'⟩ := completes_enforceMax_collecting hrest
    refine ⟨rfl, fun hlimits => ?_⟩
    obtain ⟨hs, hf⟩ := hlimits gc rfl
    rw [hnone' hf, hnone hs]

theorem completes_expire_collecting {completed : Time} {x : Except ApiError Duration}
    (hcompleted : flowRun.status.completionTime = some completed)
    (hrun : Completes (Collecting policy now) deleted (expire r flowRun policy) deleted' x) :
    gcTTL r flowRun policy = 0 ∧ x = .ok 0 ∧ deleted' = deleted ∨
    gcTTL r flowRun policy ≠ 0 ∧ now < completed + gcTTL r flowRun policy ∧
      x = .ok (completed + gcTTL r flowRun policy - now) ∧ deleted' = deleted ∨
    gcTTL r flowRun policy ≠ 0 ∧ completed + gcTTL r flowRun policy ≤ now ∧ x = .ok 0 ∧
      deleted' = deleted ++ [flowRun] := by
  unfold expire at hrun
  dsimp only at hrun
  split at hrun
  · rename_i hzero
    obtain ⟨rfl, rfl⟩ := completes_return.mp hrun
    exact .inl ⟨hzero, rfl, rfl⟩
  · rename_i hset
    rw [hcompleted] at hrun
    obtain ⟨t, mid, ⟨rfl, rfl⟩, hrest⟩ := completes_request.mp hrun
    split at hrest
    · rename_i hearly
      obtain ⟨rfl, rfl⟩ := completes_return.mp hrest
      exact .inr (.inl ⟨hset, hearly, rfl, rfl⟩)
    · rename_i hover
      obtain ⟨y, mid, hdelete, hret⟩ := completes_bind.mp hrest
      obtain ⟨rfl, rfl⟩ := completes_delete_collecting hdelete
      obtain ⟨rfl, rfl⟩ := completes_return.mp hret
      exact .inr (.inr ⟨hset, Int.not_lt.mp hover, rfl, rfl⟩)

/-- What the time to live adds to the count limits, which have left `counted`. -/
structure Collected (r : FlowRunReconciler) (flowRun : FlowRun) (policy : Option FlowRunGCPolicy)
    (completed now : Time) (counted deleted' : List FlowRun) (delay : Duration) : Prop where
  deletes : deleted' = counted ++ [flowRun] ↔ retained flowRun = false ∧
    ∃ ttl, explicitTTL r flowRun policy = some ttl ∧ completed + ttl ≤ now
  otherwise : deleted' = counted ++ [flowRun] ∨ deleted' = counted
  requeues : ∀ ttl, retained flowRun = false → explicitTTL r flowRun policy = some ttl →
    now < completed + ttl → delay = completed + ttl - now
  never : retained flowRun = true ∨ explicitTTL r flowRun policy = none → delay = 0

/-- The time to live collects as it should, or else an explicit zero applies, and only then. -/
theorem ttl_collects {completed : Time} {x : Except ApiError Duration}
    (hcompleted : flowRun.status.completionTime = some completed)
    (hpolicy : PolicyOf flowRun policy)
    (hrun : Completes (Collecting policy now) deleted (reconcileGC r flowRun) deleted' x) :
    ∃ delay counted, x = .ok delay ∧
      Completes (Collecting policy now) deleted (countBasedGC flowRun) counted (.ok ()) ∧
      ((∀ gc, policy = some gc → gc.maxSucceeded = none ∧ gc.maxFailed = none) →
        counted = deleted) ∧
      (Collected r flowRun policy completed now counted deleted' delay ↔
        retained flowRun = true ∨ explicitTTL r flowRun policy ≠ some 0) := by
  unfold reconcileGC at hrun
  unfold countBasedGC
  by_cases hretained : retained flowRun = true
  · rw [if_pos hretained] at hrun
    obtain ⟨rfl, rfl⟩ := completes_return.mp hrun
    rw [if_pos hretained]
    refine ⟨0, _, rfl, completes_return.mpr ⟨rfl, rfl⟩, fun _ => rfl,
      iff_of_true ⟨?_, .inr rfl, ?_, fun _ => rfl⟩ (.inl hretained)⟩
    · simp [hretained]
    · intro ttl h
      rw [hretained] at h
      cases h
  · have hnot : retained flowRun = false := by simpa using hretained
    rw [if_neg hretained] at hrun
    obtain ⟨found, mid, hread, hrun⟩ := completes_bind.mp hrun
    obtain ⟨hfound, hmid⟩ := completes_readGCPolicy_collecting hpolicy hread
    rw [hfound] at hread hrun
    rw [hmid] at hread hrun
    obtain ⟨y, counted, henforce, hrun⟩ := completes_bind.mp hrun
    obtain ⟨rfl, hlimits⟩ := completes_enforceTriggerPolicy_collecting henforce
    obtain ⟨again, last, hread', hexpire⟩ := completes_bind.mp hrun
    obtain ⟨rfl, rfl⟩ := completes_readGCPolicy_collecting hpolicy hread'
    have hcounted : Completes (Collecting again now) deleted
        (readGCPolicy flowRun >>= fun policy => enforceTriggerPolicy flowRun policy) last
        (.ok ()) :=
      completes_bind.mpr ⟨_, _, hread, henforce⟩
    rw [if_neg hretained]
    have hlen : last ++ [flowRun] ≠ last := by simp
    rcases completes_expire_collecting hcompleted hexpire with
      ⟨hunset, rfl, rfl⟩ | ⟨hset, hearly, rfl, rfl⟩ | ⟨hset, hover, rfl, rfl⟩
    · by_cases hzero : explicitTTL r flowRun again = some 0
      · -- an explicit zero that applies neither deletes nor comes back
        refine ⟨0, _, rfl, hcounted, hlimits, iff_of_false (fun hcollected => ?_) ?_⟩
        · by_cases hover : completed + 0 ≤ now
          · exact hlen (hcollected.deletes.mpr ⟨hnot, 0, hzero, hover⟩).symm
          · have hearly : now < completed + 0 := Int.not_le.mp hover
            exact Int.ne_of_lt (Int.sub_pos_of_lt hearly) (hcollected.requeues 0 hnot hzero hearly)
        · simp [hnot, hzero]
      · have hnone := explicitTTL_eq_none hzero hunset
        refine ⟨0, _, rfl, hcounted, hlimits,
          iff_of_true ⟨?_, .inr rfl, ?_, fun _ => rfl⟩ (.inr hzero)⟩
        · simp [hnone]
        · intro ttl _ h
          rw [hnone] at h
          cases h
    · have hsome := explicitTTL_eq_some hset
      refine ⟨_, _, rfl, hcounted, hlimits,
        iff_of_true ⟨?_, .inr rfl, ?_, ?_⟩ (.inr (by simp [hsome, hset]))⟩
      · constructor
        · intro h
          exact absurd h.symm hlen
        · rintro ⟨_, ttl, httl, hle⟩
          rw [hsome] at httl
          cases httl
          exact absurd hearly (Int.not_lt.mpr hle)
      · intro ttl _ httl _
        rw [hsome] at httl
        cases httl
        rfl
      · simp [hnot, hsome]
    · have hsome := explicitTTL_eq_some hset
      refine ⟨0, _, rfl, hcounted, hlimits,
        iff_of_true ⟨?_, .inl rfl, ?_, fun _ => rfl⟩ (.inr (by simp [hsome, hset]))⟩
      · exact ⟨fun _ => ⟨hnot, _, hsome, hover⟩, fun _ => rfl⟩
      · intro ttl _ httl hlt
        rw [hsome] at httl
        cases httl
        exact absurd hlt (Int.not_lt.mpr hover)

end Runs

/-! ## Two FlowRuns of a Trigger -/

def collectingAnswers (policy : Option FlowRunGCPolicy) (now : Time) (deleted : List FlowRun) :
    (q : Req) → Option (Reply q × List FlowRun)
  | .now => some (now, deleted)
  | .getTrigger _ => some (.ok policy, deleted)
  | .listFlowRuns _ _ => some (.ok [], deleted)
  | .delete flowRun => some (.ok (), deleted ++ [flowRun])
  | .getFlowRun _ | .update _ | .updateStatus _ | .getFlow _ | .executeStep _ => none

theorem collectingAnswers_sound {policy : Option FlowRunGCPolicy} {now : Time}
    (deleted : List FlowRun) (q : Req) (x : Reply q) (deleted' : List FlowRun)
    (h : collectingAnswers policy now deleted q = some (x, deleted')) :
    Collecting policy now deleted q x deleted' := by
  cases q with
  | now => cases h; exact ⟨rfl, rfl⟩
  | getTrigger | delete => cases h; exact ⟨.inl rfl, rfl⟩
  | listFlowRuns ns labels => cases h; exact ⟨⟨_, rfl⟩, rfl⟩
  | getFlowRun _ | update _ | updateStatus _ | getFlow _ | executeStep _ => cases h

theorem completes_collecting {r : FlowRunReconciler} {flowRun : FlowRun}
    {policy : Option FlowRunGCPolicy} {now : Time} {deleted deleted' : List FlowRun}
    {x : Except ApiError Duration}
    (h : ((reconcileGC r flowRun).simulate (collectingAnswers policy now) deleted).2 =
      (deleted', some x)) :
    Completes (Collecting policy now) deleted (reconcileGC r flowRun) deleted' x := by
  have hexec := Program.simulate_exec (@collectingAnswers_sound policy now) deleted
    (reconcileGC r flowRun)
  rw [h] at hexec
  exact ⟨_, hexec⟩

def nightlyRun (ttl : Option Duration) : FlowRun where
  metadata := { name := ⟨"default", "nightly-1"⟩, labels := [(labelTrigger, "nightly")] }
  spec := { flowRef := "export", ttlAfterFinished := ttl }
  status := { phase := .succeeded, completionTime := some 0 }

def nightlyPolicy (ttl : Duration) : Option FlowRunGCPolicy :=
  some { ttlAfterSucceeded := some ttl }

/-- Two hours for the FlowRuns of the Trigger: half of the time is left, then none. -/
theorem ttl_collects_nightly :
    (∃ delay counted, Completes (Collecting (nightlyPolicy (120 * minute)) (60 * minute)) []
        (reconcileGC plainReconciler (nightlyRun none)) [] (.ok delay) ∧
      Collected plainReconciler (nightlyRun none) (nightlyPolicy (120 * minute)) 0 (60 * minute)
        counted [] delay) ∧
    ∃ delay counted, Completes (Collecting (nightlyPolicy (120 * minute)) (120 * minute)) []
        (reconcileGC plainReconciler (nightlyRun none)) [nightlyRun none] (.ok delay) ∧
      Collected plainReconciler (nightlyRun none) (nightlyPolicy (120 * minute)) 0 (120 * minute)
        counted [nightlyRun none] delay := by
  have hnamed : PolicyOf (nightlyRun none) (nightlyPolicy (120 * minute)) :=
    .inl ⟨"nightly", rfl, by decide⟩
  have hearly : Completes (Collecting (nightlyPolicy (120 * minute)) (60 * minute)) []
      (reconcileGC plainReconciler (nightlyRun none)) [] (.ok (60 * minute)) :=
    completes_collecting (by decide)
  have hover : Completes (Collecting (nightlyPolicy (120 * minute)) (120 * minute)) []
      (reconcileGC plainReconciler (nightlyRun none)) [nightlyRun none] (.ok 0) :=
    completes_collecting (by decide)
  have hset : explicitTTL plainReconciler (nightlyRun none) (nightlyPolicy (120 * minute)) ≠
      some 0 := by decide
  obtain ⟨delay, counted, hdelay, _, _, hcollected⟩ := ttl_collects rfl hnamed hearly
  obtain ⟨delay', counted', hdelay', _, _, hcollected'⟩ := ttl_collects rfl hnamed hover
  exact ⟨⟨delay, counted, hdelay ▸ hearly, hcollected.mpr (.inr hset)⟩,
    ⟨delay', counted', hdelay' ▸ hover, hcollected'.mpr (.inr hset)⟩⟩

/-- An explicit "0s", on the FlowRun or in the policy of the Trigger, keeps the FlowRun. -/
theorem explicit_zero_keeps : ∃ r flowRun policy flowRun' policy', ∀ now : Time, 0 ≤ now →
    (flowRun.spec.ttlAfterFinished = some 0 ∧ flowRun.status.completionTime = some 0 ∧
      flowRun.status.phase.terminal = true ∧ retained flowRun = false ∧
      Completes (Collecting policy now) [] (reconcileGC r flowRun) [] (.ok 0)) ∧
    (flowRun'.spec.ttlAfterFinished = none ∧
      triggerTTL policy' flowRun'.status.phase = some 0 ∧
      flowRun'.status.completionTime = some 0 ∧ flowRun'.status.phase.terminal = true ∧
      retained flowRun' = false ∧ PolicyOf flowRun' policy' ∧
      Completes (Collecting policy' now) [] (reconcileGC r flowRun') [] (.ok 0)) :=
  ⟨plainReconciler, nightlyRun (some 0), none, nightlyRun none, nightlyPolicy 0, fun _ _ =>
    ⟨⟨rfl, rfl, rfl, rfl, completes_collecting rfl⟩,
      ⟨rfl, rfl, rfl, rfl, rfl, .inl ⟨"nightly", rfl, by decide⟩, completes_collecting rfl⟩⟩⟩

end KubeZap
