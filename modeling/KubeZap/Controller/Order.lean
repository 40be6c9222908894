import KubeZap.Controller.Simulation

/-! # Steps are recorded in dependency order

`Ordered` says of a stored list of step entries what a reader of it relies on:
names are distinct and belong to the Flow, every entry was written after the
entries its step depends on, and a step is skipped for a reason. It is an
invariant of the state machine, because each kind of progress writes entries for
steps whose dependencies are met and never touches a terminal entry. Why a step may be
skipped besides its dependencies is a parameter of it; for a stored status it is that its
`when` list was false for a call that found the FlowRun as it was stored earlier in the run.
-/

namespace KubeZap

open Foundation

section Invariant

variable (r : FlowRunReconciler) (flow : Flow) (spec : FlowRunSpec)

/-- A call that finds `xs` may skip the step: after the immediate transitions to `ys` it is ready,
and its `when` list is false over the results, the statuses and the parameters of `ys`. -/
def SkipsFrom (xs : List StepRunStatus) (step : FlowStep) : Prop :=
  step.when ≠ [] ∧ ∃ d ys, DecidedBy r flow spec ys d ∧ Inlined r d spec xs ys ∧
    Ready flow ys step ∧
    evaluateWhen r step.when d.stepResults ys spec.triggerData d.params = .ok false

variable (why : FlowStep → Prop)

/-- The dependency `dep` does not hold its dependents back. -/
def Satisfied (xs : List StepRunStatus) (dep : String) : Prop :=
  ∃ d ∈ xs, d.name = dep ∧ (d.phase = .succeeded ∨ d.phase = .skipped ∨
    d.phase = .failed ∧ (flow.spec.failurePolicy = .continuing ∨
      ∃ depStep ∈ flow.spec.steps, depStep.name = dep ∧ depStep.onFailure = .continuing))

def DepsSkipped (xs : List StepRunStatus) (step : FlowStep) : Prop :=
  step.runAfter ≠ [] ∧ ∀ dep ∈ step.runAfter, ∃ d ∈ xs, d.name = dep ∧ d.phase = .skipped

/-- An entry with this phase may stand for the step. -/
structure Justified (xs : List StepRunStatus) (step : FlowStep) (phase : StepPhase) : Prop where
  recorded : phase = .waiting ∨ phase = .succeeded ∨ phase = .failed ∨ phase = .skipped
  deps : ∀ dep ∈ step.runAfter, Satisfied flow xs dep
  skipped : phase = .skipped → DepsSkipped xs step ∨ why step

structure Ordered (xs : List StepRunStatus) : Prop where
  nodup : (xs.map StepRunStatus.name).Nodup
  entries : ∀ e ∈ xs, ∃ step ∈ flow.spec.steps, step.name = e.name ∧
    Justified flow why xs step e.phase

end Invariant

section Steps

variable {r : FlowRunReconciler} {flow : Flow} {spec : FlowRunSpec}
variable {xs ys : List StepRunStatus} {step : FlowStep} {why why' : FlowStep → Prop}

theorem ordered_nil : Ordered flow why [] := ⟨List.nodup_nil, nofun⟩

theorem Ordered.weaken (h : Ordered flow why xs) (hwhy : ∀ step, why step → why' step) :
    Ordered flow why' xs := by
  refine ⟨h.nodup, fun e he => ?_⟩
  obtain ⟨step, hstep, hname, hjust⟩ := h.entries e he
  exact ⟨step, hstep, hname, hjust.recorded, hjust.deps,
    fun hs => (hjust.skipped hs).imp_right (hwhy step)⟩

/-! ## Justifications are kept -/

theorem KeepsTerminal.mem (h : KeepsTerminal xs ys) {s : StepRunStatus} (hs : s ∈ xs)
    (hterm : s.phase.terminal = true) : ∃ s' ∈ ys, s'.name = s.name ∧ s'.phase = s.phase := by
  obtain ⟨i, hi⟩ := List.mem_iff_getElem?.mp hs
  obtain ⟨s', hi', hname, hkeep⟩ := h i s hi
  exact ⟨s', List.mem_iff_getElem?.mpr ⟨i, hi'⟩, hname, (hkeep hterm).1⟩

theorem Satisfied.mono {dep : String} (hkeep : KeepsTerminal xs ys) (h : Satisfied flow xs dep) :
    Satisfied flow ys dep := by
  obtain ⟨d, hd, hname, hphase⟩ := h
  have hterm : d.phase.terminal = true := by
    rcases hphase with hp | hp | ⟨hp, _⟩ <;> rw [hp] <;> rfl
  obtain ⟨d', hd', hname', hphase'⟩ := hkeep.mem hd hterm
  exact ⟨d', hd', hname'.trans hname, by rw [hphase']; exact hphase⟩

theorem DepsSkipped.mono (hkeep : KeepsTerminal xs ys) (h : DepsSkipped xs step) :
    DepsSkipped ys step := by
  refine ⟨h.1, fun dep hdep => ?_⟩
  obtain ⟨d, hd, hname, hphase⟩ := h.2 dep hdep
  obtain ⟨d', hd', hname', hphase'⟩ := hkeep.mem hd (by rw [hphase]; rfl)
  exact ⟨d', hd', hname'.trans hname, hphase'.trans hphase⟩

theorem Justified.mono {phase : StepPhase} (hkeep : KeepsTerminal xs ys)
    (h : Justified flow why xs step phase) : Justified flow why ys step phase where
  recorded := h.recorded
  deps dep hdep := (h.deps dep hdep).mono hkeep
  skipped hs := (h.skipped hs).imp_left (.mono hkeep)

/-! ## What the readiness tests justify -/

theorem satisfied_of_dependencyMet {dep : String}
    (h : dependencyMet xs flow.spec.steps (flow.spec.failurePolicy == .continuing) dep = true) :
    Satisfied flow xs dep := by
  obtain ⟨s, hs, hphase⟩ := dependencyMet_iff.mp h
  refine ⟨s, mem_of_findStepStatus hs, name_of_findStepStatus hs, ?_⟩
  rcases hphase with hp | hp | ⟨hp, hcont⟩
  · exact .inl hp
  · exact .inr (.inl hp)
  · refine .inr (.inr ⟨hp, ?_⟩)
    rcases hcont with hpol | ⟨depStep, hfind, hon⟩
    · exact .inl (by simpa using hpol)
    · exact .inr ⟨depStep, Keyed.mem_of_find hfind, Keyed.key_of_find hfind, hon⟩

theorem satisfied_of_dependenciesMet
    (h : dependenciesMet step xs flow.spec.steps (flow.spec.failurePolicy == .continuing) = true) :
    ∀ dep ∈ step.runAfter, Satisfied flow xs dep :=
  fun dep hdep => satisfied_of_dependencyMet (dependenciesMet_iff.mp h dep hdep)

theorem depsSkipped_of_allDepsSkipped (h : allDepsSkipped step xs = true) : DepsSkipped xs step := by
  obtain ⟨hne, hall⟩ := allDepsSkipped_iff.mp h
  refine ⟨hne, fun dep hdep => ?_⟩
  obtain ⟨s, hs, hphase⟩ := hall dep hdep
  exact ⟨s, mem_of_findStepStatus hs, name_of_findStepStatus hs, hphase⟩

theorem justified_of_dependenciesMet {phase : StepPhase}
    (h : dependenciesMet step xs flow.spec.steps (flow.spec.failurePolicy == .continuing) = true)
    (hphase : phase = .waiting ∨ phase = .succeeded ∨ phase = .failed) :
    Justified flow why xs step phase := by
  refine ⟨?_, satisfied_of_dependenciesMet h, fun hs => ?_⟩
  · rcases hphase with hp | hp | hp
    · exact .inl hp
    · exact .inr (.inl hp)
    · exact .inr (.inr (.inl hp))
  · rcases hphase with hp | hp | hp <;> rw [hs] at hp <;> cases hp

theorem justified_of_mem_collectWave (h : step ∈ collectWave flow xs) {phase : StepPhase}
    (hphase : phase = .waiting ∨ phase = .succeeded ∨ phase = .failed) :
    Justified flow why xs step phase := by
  have hin := (List.mem_filter.mp h).2
  rw [inWave, Bool.and_eq_true] at hin
  exact justified_of_dependenciesMet hin.1 hphase

/-! ## Each kind of progress -/

theorem mem_foldl_upsert {es : List StepRunStatus} {e : StepRunStatus}
    (he : e ∈ es.foldl upsertStepStatus xs) : e ∈ es ∨ e ∈ xs := by
  revert he
  refine List.foldlRecOn (motive := fun ys => e ∈ ys → e ∈ es ∨ e ∈ xs) es _ .inr ?_
  intro ys hys a ha he
  rcases Keyed.mem_upsert he with rfl | he
  · exact .inl ha
  · exact hys he

theorem Ordered.write {es : List StepRunStatus} (h : Ordered flow why xs)
    (hkeep : KeepsTerminal xs (es.foldl upsertStepStatus xs))
    (hes : ∀ e ∈ es, ∃ step ∈ flow.spec.steps, step.name = e.name ∧
      Justified flow why xs step e.phase) :
    Ordered flow why (es.foldl upsertStepStatus xs) := by
  have hnodup := List.foldlRecOn (motive := fun ys => (ys.map StepRunStatus.name).Nodup) es
    upsertStepStatus h.nodup fun _ hys e _ => Keyed.nodup_upsert e hys
  refine ⟨hnodup, fun e he => ?_⟩
  have hold : ∃ step ∈ flow.spec.steps, step.name = e.name ∧
      Justified flow why xs step e.phase := by
    rcases mem_foldl_upsert he with he | he
    · exact hes e he
    · exact h.entries e he
  obtain ⟨step, hstep, hname, hjust⟩ := hold
  exact ⟨step, hstep, hname, hjust.mono hkeep⟩

theorem Ordered.write_one {e : StepRunStatus} (h : Ordered flow why xs)
    (hkeep : KeepsTerminal xs (upsertStepStatus xs e)) (hstep : step ∈ flow.spec.steps)
    (hname : e.name = step.name) (hjust : Justified flow why xs step e.phase) :
    Ordered flow why (upsertStepStatus xs e) := by
  refine @Ordered.write flow xs why [e] h hkeep fun e' he' => ?_
  rw [List.mem_singleton.mp he']
  exact ⟨step, hstep, hname.symm, hjust⟩

theorem InlineStep.ordered {d : Dispatch} (hdec : DecidedBy r flow spec xs d)
    (h : InlineStep r d spec xs ys) (hord : Ordered flow why xs)
    (hwhy : ∀ step, Ready flow xs step → step.when ≠ [] →
      evaluateWhen r step.when d.stepResults xs spec.triggerData d.params = .ok false → why step) :
    Ordered flow why ys := by
  have hkeep := h.keeps
  have hflow := hdec.flow_eq
  cases h with
  | @skip step e hready hname hphase _ hwhy =>
    rw [hflow] at hready
    refine hord.write_one hkeep hready.mem hname ⟨.inr (.inr (.inr hphase)),
      satisfied_of_dependenciesMet hready.deps, fun _ => ?_⟩
    rcases hwhy with hdeps | ⟨hwhen, heval⟩
    · exact .inl (depsSkipped_of_allDepsSkipped hdeps)
    · exact .inr (hwhy step hready hwhen heval)
  | @fail step e hready hname hphase _ _ =>
    rw [hflow] at hready
    exact hord.write_one hkeep hready.mem hname
      (justified_of_dependenciesMet hready.deps (.inr (.inr hphase)))

theorem Inlined.ordered {d : Dispatch} (hdec : DecidedBy r flow spec xs d)
    (h : Inlined r d spec xs ys) (hord : Ordered flow why xs)
    (hwhy : ∀ step, SkipsFrom r flow spec xs step → why step) : Ordered flow why ys := by
  -- the data of the call stays that of the statuses at every transition of the chain
  induction h with
  | refl => exact hord
  | tail hpre hstep ih =>
    have hthere := hdec.inlined hpre
    exact hstep.ordered hthere ih fun step hready hwhen heval =>
      hwhy step ⟨hwhen, d, _, hthere, hpre, hready, heval⟩

theorem Progress.ordered (h : Progress r flow spec xs ys) (hord : Ordered flow why xs)
    (hwhy : ∀ step, SkipsFrom r flow spec xs step → why step) : Ordered flow why ys := by
  have hkeep := h.keeps
  cases h with
  | inline hdec hinl => exact hinl.ordered hdec hord hwhy
  | inlineFail hdec hinl hready hname hphase =>
    exact (hinl.ordered hdec hord hwhy).write_one
      (.upsert_of_unprocessed (by rw [hname]; exact hready.fresh)) hready.mem hname
      (justified_of_dependenciesMet hready.deps (.inr (.inr hphase)))
  | wait hentry =>
    exact hord.write_one hkeep (List.mem_filter.mp hentry.mem).1 hentry.name_eq
      (justified_of_mem_collectWave hentry.mem hentry.phase)
  | @wave outs hwave hok hreach _ =>
    rw [waveStatuses_eq] at hkeep ⊢
    refine hord.write hkeep fun e he => ?_
    obtain ⟨o, ho, rfl⟩ := List.mem_map.mp he
    have hmem : o.1 ∈ collectWave flow xs := hwave ▸ List.mem_map_of_mem ho
    obtain ⟨s, _, hname, hphase, hfinal⟩ :=
      @waveEntry_final r.lib flow o (hok o ho) (hreach o ho)
    refine ⟨o.1, (List.mem_filter.mp hmem).1, hname.symm, justified_of_mem_collectWave hmem ?_⟩
    rw [hphase]
    exact .inr hfinal

theorem Ordered.encode (h : Ordered flow why xs) :
    Ordered flow why (xs.map StepRunStatus.encode) := by
  refine ⟨?_, fun e he => ?_⟩
  · rw [List.map_map]
    exact h.nodup
  · obtain ⟨e₀, he₀, rfl⟩ := List.mem_map.mp he
    obtain ⟨step, hstep, hname, hjust⟩ := h.entries e₀ he₀
    exact ⟨step, hstep, hname, hjust.mono (.encode xs)⟩

end Steps

/-! ## Every stored status -/

/-- The Flows are not edited: whenever one is read, it is the same. -/
def Policy.Unedited (P : Policy) (flows : NamespacedName → Flow) : Prop :=
  ∀ k flow, P.flow k (.ok flow) → flow = flows k

def flowOf (flows : NamespacedName → Flow) (name : NamespacedName) (spec : FlowRunSpec) : Flow :=
  flows ⟨name.namespace_, spec.flowRef⟩

theorem Transition.ordered {r : FlowRunReconciler} {flow : Flow} {flows : Flow → Prop}
    {spec : FlowRunSpec} {old new : FlowRunStatus} {why : FlowStep → Prop}
    (h : Transition r flows spec old new) (hflows : ∀ f, flows f → f = flow)
    (hord : Ordered flow why old.steps)
    (hwhy : ∀ step, SkipsFrom r flow spec old.steps step → why step) :
    Ordered flow why new.encode.steps := by
  refine Ordered.encode ?_
  cases h with
  | start _ _ _ hsteps | finish _ _ _ _ hsteps | succeed _ _ _ _ _ hsteps => rw [hsteps]; exact hord
  | progress hflow _ _ _ hprog =>
    rw [hflows _ hflow] at hprog
    exact hprog.ordered hord hwhy

/-- The entries are in order, for whatever reason steps were skipped. -/
theorem ordered_preserved {r : FlowRunReconciler} {P : Policy} {flows : NamespacedName → Flow}
    (hflows : P.Unedited flows) :
    Preserved r P fun k spec status =>
      Ordered (flowOf flows k spec) (fun _ => True) status.steps :=
  fun _ _ _ _ hord htrans => htrans.ordered (fun f => hflows _ f) hord fun _ _ => trivial

theorem ordered_of_new {flows : NamespacedName → Flow} {why : FlowStep → Prop} {w : World}
    (hnew : Throughout (fun _ _ status => status.steps = []) w) :
    Throughout (fun k spec status => Ordered (flowOf flows k spec) why status.steps) w := by
  intro k o ho
  have hsteps : o.status.steps = [] := hnew k o ho
  rw [hsteps]
  exact ordered_nil

/-- The `when` list of the step was false for a call that found the FlowRun as it was stored at a
point `Q'` between `Q₀` and `Q`. -/
def WhenFalse (r : FlowRunReconciler) (P : Policy) (flow : Flow) (Q₀ Q : Pool World Reply)
    (k : NamespacedName) (spec : FlowRunSpec) (step : FlowStep) : Prop :=
  ∃ Q' o, Runs r P Q₀ Q' ∧ Runs r P Q' Q ∧ Q'.world.store.current k = some o ∧ o.spec = spec ∧
    SkipsFrom r flow spec o.status.steps step

/-- In every state that calls, scans and users reach from FlowRuns without entries,
whatever reads return and whichever writes fail, the stored entries are in order. -/
theorem stored_ordered {r : FlowRunReconciler} {P : Policy} {flows : NamespacedName → Flow}
    {w : World} {Q : Pool World Reply} (hflows : P.Unedited flows)
    (hwf : w.store.WF flowRunKind) (hnew : Throughout (fun _ _ status => status.steps = []) w)
    (hrun : Runs r P ⟨w, []⟩ Q) (k : NamespacedName) (o : FlowRun)
    (ho : Q.world.store.current k = some o) :
    Ordered (flowOf flows k o.spec) (WhenFalse r P (flowOf flows k o.spec) ⟨w, []⟩ Q k o.spec)
      o.status.steps := by
  induction hrun generalizing o with
  | refl => exact ordered_of_new hnew k o ho
  | @tail Q₁ Q₂ hpre hstep ih =>
    -- what is stored after the step is what was stored before it, or one transition further
    have hunder := Runs.underway (ordered_preserved hflows) hwf (ordered_of_new hnew) hpre
    obtain ⟨o₁, ho₁, hspec, hstatus⟩ := hunder.refines hstep k o ho
    have hold := (ih o₁ ho₁).weaken fun step ⟨Q', o', hbefore, hafter, hfound⟩ =>
      (⟨Q', o', hbefore, hafter.tail hstep, hfound⟩ :
        WhenFalse r P (flowOf flows k o₁.spec) ⟨w, []⟩ Q₂ k o₁.spec step)
    rw [hspec]
    rcases hstatus with hsame | ⟨new, hnewest, htrans⟩
    · rw [hsame]
      exact hold
    · rw [hnewest]
      exact htrans.ordered (fun f => hflows _ f) hold fun step hskips =>
        ⟨Q₁, o₁, hpre, .single hstep, ho₁, rfl, hskips⟩

def chainFlow : Flow :=
  ⟨{ steps :=
      [{ name := "first", action := { type := .transform, transform := some ⟨[]⟩ } },
       { name := "second", runAfter := ["first"]
         action := { type := .transform, transform := some ⟨[]⟩ } }] }⟩

def chainRun : FlowRun where
  metadata := { name := ⟨"default", "chain-1"⟩ }
  spec := { flowRef := "chain" }

def chainScript : Script where
  flows _ := .ok chainFlow
  io _ := stepAnswers 0 fun _ _ => .unbuilt "not used"

def chainFirst : Call :=
  chainScript.call plainReconciler ⟨"default", "chain-1"⟩ (.single chainRun 0)

def chainSecond : Call :=
  chainScript.call plainReconciler ⟨"default", "chain-1"⟩ chainFirst.after

theorem chainScript_within : chainScript.Within (.ofFlow .none chainFlow) where
  fresh := rfl
  flows _ := rfl
  rejects _ h := by cases h

theorem ofFlow_unedited (faults : Faults) (flow : Flow) :
    (Policy.ofFlow faults flow).Unedited fun _ => flow :=
  fun _ _ h => Except.ok.inj h

theorem stored_ordered_chain :
    ∃ o, chainSecond.after.store.current ⟨"default", "chain-1"⟩ = some o ∧
      o.status.steps.map StepRunStatus.name = ["first", "second"] ∧
      Ordered chainFlow (WhenFalse plainReconciler (.ofFlow .none chainFlow) chainFlow
        ⟨.single chainRun 0, []⟩ ⟨chainSecond.after, []⟩ ⟨"default", "chain-1"⟩ o.spec)
        o.status.steps := by
  have hnames : (chainSecond.after.store.current ⟨"default", "chain-1"⟩).map
      (fun o => o.status.steps.map StepRunStatus.name) = some ["first", "second"] := by
    decide +kernel
  obtain ⟨o, ho, hsteps⟩ := Option.map_eq_some_iff.mp hnames
  have hhist : History plainReconciler (.ofFlow .none chainFlow) (.single chainRun 0)
      [chainFirst, chainSecond] chainSecond.after :=
    Script.history_call chainScript_within (Script.history_call chainScript_within (.nil _))
  exact ⟨o, ho, hsteps, stored_ordered (ofFlow_unedited _ _) (World.single_wf rfl)
    (throughout_single rfl) hhist.runs _ o ho⟩

end KubeZap
