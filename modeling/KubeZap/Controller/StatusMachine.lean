import KubeZap.Controller.Effects

/-! # The state machine of a FlowRun

What the status of a FlowRun is for, without calls, versions or writes: a FlowRun
is started once, its steps make progress while it runs, and it ends in a terminal
phase. `Transition` is that machine over one stored status. The controller refines
it (`Refinement`), so what holds of every transition holds of every stored status.
-/

namespace KubeZap

open Foundation

/-- The data of a call is that of these statuses. -/
structure DecidedBy (r : FlowRunReconciler) (flow : Flow) (spec : FlowRunSpec)
    (statuses : List StepRunStatus) (d : Dispatch) : Prop where
  flow_eq : d.flow = flow
  stepResults_eq : d.stepResults = rebuildStepResults statuses
  params_eq : resolveFlowParams r.lib flow.spec.params spec.params d.stepResults
    spec.triggerData = .ok d.params

inductive Progress (r : FlowRunReconciler) (flow : Flow) (spec : FlowRunSpec)
    (xs : List StepRunStatus) : List StepRunStatus → Prop
  | inline {d : Dispatch} {ys : List StepRunStatus} :
      DecidedBy r flow spec xs d → Inlined r d spec xs ys → Progress r flow spec xs ys
  | inlineFail {d : Dispatch} {ys : List StepRunStatus} {step : FlowStep} {e : StepRunStatus} :
      DecidedBy r flow spec xs d → Inlined r d spec xs ys → Ready flow ys step →
      e.name = step.name → e.phase = .failed → Progress r flow spec xs (upsertStepStatus ys e)
  | wait {step : FlowStep} {e : StepRunStatus} :
      WaitEntry flow xs step e → Progress r flow spec xs (upsertStepStatus xs e)
  | wave {outs : List (FlowStep × StepReturn)} :
      outs.map Prod.fst = collectWave flow xs → (∀ o ∈ outs, StepOk o.1 o.2) →
      (∀ o ∈ outs, o.2.transport = false) → (∀ o ∈ outs, o.1.action.type ≠ .wait) →
      Progress r flow spec xs (waveStatuses r.lib flow xs outs)

/-- One change of the status of a FlowRun whose Flow is one of `flows`. -/
inductive Transition (r : FlowRunReconciler) (flows : Flow → Prop) (spec : FlowRunSpec)
    (old new : FlowRunStatus) : Prop
  | start : old.phase.terminal = false → old.phase ≠ .running → new.phase = .running →
      new.steps = old.steps → Transition r flows spec old new
  | progress {flow : Flow} : flows flow → old.phase = .running → new.phase = .running →
      new.startTime = old.startTime → Progress r flow spec old.steps new.steps →
      Transition r flows spec old new
  | finish : old.phase.terminal = false → new.phase = .failed ∨ new.phase = .cancelled →
      (new.phase = .cancelled → old.phase = .running) → new.startTime = old.startTime →
      new.steps = old.steps → Transition r flows spec old new
  | succeed {flow : Flow} : flows flow → old.phase = .running → Exhausted flow old.steps →
      new.phase = .succeeded → new.startTime = old.startTime → new.steps = old.steps →
      Transition r flows spec old new

def waveEntry (lib : GoLib) (flow : Flow) (o : FlowStep × StepReturn) : StepRunStatus :=
  (stepResult lib flow o.1 o.2).batched

theorem waveStatuses_eq (lib : GoLib) (flow : Flow) (xs : List StepRunStatus)
    (outs : List (FlowStep × StepReturn)) :
    waveStatuses lib flow xs outs =
      (outs.map (waveEntry lib flow)).foldl upsertStepStatus xs := by
  unfold waveStatuses batchStatuses waveEntry
  rw [List.foldl_map, List.foldl_map]

theorem StepResult.batched_same (res : StepResult) :
    res.batched.name = res.status.name ∧ res.batched.phase = res.status.phase := by
  unfold StepResult.batched
  split <;> exact ⟨rfl, rfl⟩

theorem stepResult_status {lib : GoLib} {flow : Flow} {step : FlowStep} {ret : StepReturn}
    {s : StepRunStatus} (h : ret.result = .ok s) : (stepResult lib flow step ret).status = s := by
  unfold stepResult
  rw [h]
  dsimp only
  split <;> rfl

theorem waveEntry_final {lib : GoLib} {flow : Flow} {o : FlowStep × StepReturn}
    (hok : StepOk o.1 o.2) (hreach : o.2.transport = false) :
    ∃ s, o.2.result = .ok s ∧ (waveEntry lib flow o).name = o.1.name ∧
      (waveEntry lib flow o).phase = s.phase ∧ (s.phase = .succeeded ∨ s.phase = .failed) := by
  rcases hok with ⟨err, herr⟩ | ⟨s, hs, hname, hphase⟩
  · rw [StepReturn.transport, herr] at hreach
    cases hreach
  · refine ⟨s, hs, ?_, ?_, hphase⟩
    · rw [waveEntry, (StepResult.batched_same _).1, stepResult_status hs, hname]
    · rw [waveEntry, (StepResult.batched_same _).2, stepResult_status hs]

variable {r : FlowRunReconciler} {spec : FlowRunSpec} {xs ys : List StepRunStatus}

theorem InlineStep.keeps {d : Dispatch} (h : InlineStep r d spec xs ys) : KeepsTerminal xs ys := by
  cases h with
  | skip hready hname | fail hready hname =>
    exact .upsert_of_unprocessed (by rw [hname]; exact hready.fresh)

theorem Inlined.keeps {d : Dispatch} (h : Inlined r d spec xs ys) : KeepsTerminal xs ys := by
  induction h with
  | refl => exact .refl xs
  | tail _ hstep ih => exact ih.trans hstep.keeps

/-- Immediate transitions record no results, so the data of the call stays that of the statuses. -/
theorem rebuildStepResults_upsert {e : StepRunStatus} (hfresh : processed xs e.name = false)
    (he : e.results = []) : rebuildStepResults (upsertStepStatus xs e) = rebuildStepResults xs := by
  unfold rebuildStepResults
  generalize ([] : StringMap (StringMap String)) = m
  induction xs generalizing m with
  | nil => simp [upsertStepStatus, Keyed.upsert, he]
  | cons x xs ih =>
    have hkeyed : findStepStatus (x :: xs) e.name =
        if x.name = e.name then some x else findStepStatus xs e.name := Keyed.find_cons x xs e.name
    rw [processed_eq_false, hkeyed] at hfresh
    unfold upsertStepStatus Keyed.upsert
    split
    next heq =>
      -- the entry that is replaced has not ended, so it has no part in the results either
      rw [if_pos heq] at hfresh
      have hopen := StepPhase.unstarted_not_terminal (hfresh x rfl)
      have hold : ¬ (x.phase = .succeeded ∨ x.phase = .skipped) := by
        rintro (h | h) <;> rw [h] at hopen <;> cases hopen
      simp [he, hold]
    next hne =>
      rw [if_neg hne] at hfresh
      exact ih (processed_eq_false.mpr hfresh) _

theorem InlineStep.results {d : Dispatch} (h : InlineStep r d spec xs ys) :
    rebuildStepResults ys = rebuildStepResults xs := by
  cases h with
  | skip hready hname _ hnone | fail hready hname _ hnone =>
    exact rebuildStepResults_upsert (by rw [hname]; exact hready.fresh) hnone

theorem DecidedBy.inlined {flow : Flow} {d : Dispatch} (hdec : DecidedBy r flow spec xs d)
    (h : Inlined r d spec xs ys) : DecidedBy r flow spec ys d := by
  induction h with
  | refl => exact hdec
  | tail _ hstep ih => exact ⟨ih.flow_eq, by rw [hstep.results, ih.stepResults_eq], ih.params_eq⟩

theorem DecidedBy.encode {flow : Flow} {d : Dispatch} (hdec : DecidedBy r flow spec xs d) :
    DecidedBy r flow spec (xs.map StepRunStatus.encode) d := by
  refine ⟨hdec.flow_eq, hdec.stepResults_eq.trans ?_, hdec.params_eq⟩
  unfold rebuildStepResults
  rw [List.foldl_map]
  rfl

theorem not_terminal_of_mem_collectWave {flow : Flow} {step : FlowStep}
    (h : step ∈ collectWave flow xs) {s : StepRunStatus}
    (hs : findStepStatus xs step.name = some s) : s.phase.terminal = false := by
  have hin := (List.mem_filter.mp h).2
  simp only [inWave, hs, Bool.and_eq_true, Bool.or_eq_true, Bool.not_eq_true', beq_iff_eq] at hin
  rcases hin.2 with hfresh | ⟨_, hwait⟩
  · exact StepPhase.unstarted_not_terminal (processed_eq_false.mp hfresh s hs)
  · rw [hwait]; rfl

theorem Progress.keeps {flow : Flow} (h : Progress r flow spec xs ys) : KeepsTerminal xs ys := by
  cases h with
  | inline _ hinl => exact hinl.keeps
  | inlineFail _ hinl hready hname _ =>
    exact hinl.keeps.trans (.upsert_of_unprocessed (by rw [hname]; exact hready.fresh))
  | wait hentry =>
    refine (KeepsTerminal.refl xs).upsert fun s hs => ?_
    rw [hentry.name_eq] at hs
    exact not_terminal_of_mem_collectWave hentry.mem hs
  | @wave outs hwave hok hreach _ =>
    rw [waveStatuses_eq]
    refine List.foldlRecOn _ _ (KeepsTerminal.refl xs) fun _ hys e he => hys.upsert fun s hs => ?_
    obtain ⟨o, ho, rfl⟩ := List.mem_map.mp he
    obtain ⟨_, _, hname, _, _⟩ :=
      @waveEntry_final r.lib flow o (hok o ho) (hreach o ho)
    rw [hname] at hs
    exact not_terminal_of_mem_collectWave (hwave ▸ List.mem_map_of_mem ho) hs

theorem Transition.keeps {flows : Flow → Prop} {old new : FlowRunStatus}
    (h : Transition r flows spec old new) :
    old.phase.terminal = false ∧ KeepsTerminal old.steps new.steps := by
  cases h with
  | start hterm _ _ hsteps | finish hterm _ _ _ hsteps => exact ⟨hterm, hsteps ▸ .refl _⟩
  | progress _ hrun _ _ hprog => exact ⟨by rw [hrun]; rfl, hprog.keeps⟩
  | succeed _ hrun _ _ _ hsteps => exact ⟨by rw [hrun]; rfl, hsteps ▸ .refl _⟩

end KubeZap
