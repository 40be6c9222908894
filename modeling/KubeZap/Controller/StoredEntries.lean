import KubeZap.Controller.Completeness
import KubeZap.Controller.RootOrder

/-! # Stored entries, and why a FlowRun does not get stuck

Every stored status is one that the state machine reaches. A step has one entry at most, and an
entry that has not ended waits. A call that finds an empty wave and something active comes back
every five seconds. It never does: what is active waits, and a step that waits is in the wave.
-/

namespace KubeZap

open Foundation

section Entries

variable {r : FlowRunReconciler} {flow : Flow} {spec : FlowRunSpec} {xs ys : List StepRunStatus}

def Distinct (xs : List StepRunStatus) : Prop := (xs.map StepRunStatus.name).Nodup

theorem Inlined.distinct {d : Dispatch} (h : Inlined r d spec xs ys) (hxs : Distinct xs) :
    Distinct ys := by
  induction h with
  | refl => exact hxs
  | tail _ hstep ih => cases hstep <;> exact Keyed.nodup_upsert _ ih

theorem Progress.distinct (h : Progress r flow spec xs ys) (hxs : Distinct xs) : Distinct ys := by
  cases h with
  | inline _ hinl => exact hinl.distinct hxs
  | inlineFail _ hinl => exact Keyed.nodup_upsert _ (hinl.distinct hxs)
  | wait _ => exact Keyed.nodup_upsert _ hxs
  | wave _ _ _ _ =>
    rw [waveStatuses_eq]
    exact List.foldlRecOn _ _ hxs fun _ hys e _ => Keyed.nodup_upsert _ hys

theorem distinct_preserved (r : FlowRunReconciler) (P : Policy) :
    Preserved r P fun _ _ status => Distinct status.steps := by
  intro k spec old new hold htrans
  have hnew : Distinct new.steps := by
    cases htrans with
    | start _ _ _ hsteps | finish _ _ _ _ hsteps | succeed _ _ _ _ _ hsteps => exact hsteps ▸ hold
    | progress _ _ _ _ hprog => exact hprog.distinct hold
  simpa [Distinct, Function.comp_def] using hnew

theorem anyRunning_of_empty_wave (hwaits : Waits flow xs) (hwave : collectWave flow xs = []) :
    anyRunning flow xs = false := by
  by_contra hrunning
  obtain ⟨step, -, hactive⟩ := List.any_eq_true.mp (Bool.not_eq_false _ ▸ hrunning)
  unfold stepActive at hactive
  split at hactive
  next e hfind =>
    have hopen : e.phase.terminal = false := by
      cases hphase : e.phase <;> simp_all [StepPhase.terminal]
    obtain ⟨hphase, u, hu, hname, hwait, hmet⟩ := hwaits e (mem_of_findStepStatus hfind) hopen
    rw [name_of_findStepStatus hfind] at hname
    have hin : u ∈ collectWave flow xs :=
      List.mem_filter.mpr ⟨hu, by simp [inWave, hmet, hwait, hname, hfind, hphase]⟩
    rw [hwave] at hin
    cases hin
  · cases hactive

end Entries

section Runs

variable {r : FlowRunReconciler} {P : Policy} {flows : NamespacedName → Flow} {w : World}
variable {Q : Pool World Reply} (hflows : P.Unedited flows) (hwf : w.store.WF flowRunKind)
variable (hnew : Throughout (fun _ _ status => status = {}) w) (hrun : Runs r P ⟨w, []⟩ Q)
variable (k : NamespacedName) (o : FlowRun) (ho : Q.world.store.current k = some o)

include hwf hnew hrun ho

theorem stored_of_preserved {I : NamespacedName → FlowRunSpec → FlowRunStatus → Prop}
    (hI : Preserved r P I) (hempty : ∀ k spec, I k spec {}) : I k o.spec o.status := by
  refine (Runs.underway hI hwf (fun k o ho => ?_) hrun).1.2 k o ho
  rw [hnew k o ho]
  exact hempty k o.spec

include hflows

theorem stored_lawful : Lawful flows k o.spec o.status :=
  stored_of_preserved hwf hnew hrun k o ho (lawful_preserved hflows) fun _ _ =>
    ⟨waits_nil, fun _ _ => rfl⟩

/-- However calls, scans and users interleave, whatever reads return and whichever writes fail:
the entries of a stored FlowRun are those of distinct steps, there are none before it is started,
and one that has not ended waits, for a wait step whose dependencies are met. -/
theorem stored_entries :
    (o.status.steps.map StepRunStatus.name).Nodup ∧
    (o.status.phase = .empty ∨ o.status.phase = .pending → o.status.steps = []) ∧
    ∀ e ∈ o.status.steps, e.phase.terminal = false → e.phase = .waiting ∧
      ∃ step ∈ (flowOf flows k o.spec).spec.steps, step.name = e.name ∧
        step.action.type = .wait ∧ dependenciesMet step o.status.steps
          (flowOf flows k o.spec).spec.steps
          ((flowOf flows k o.spec).spec.failurePolicy == .continuing) = true := by
  obtain ⟨hwaits, hidle⟩ := stored_lawful hflows hwf hnew hrun k o ho
  refine ⟨?_, ?_, hwaits⟩
  · exact stored_of_preserved hwf hnew hrun k o ho (distinct_preserved r P) fun _ _ => .nil
  · rintro (hphase | hphase) <;> exact hidle (by rw [hphase]; rfl) (by rw [hphase]; decide)

/-- Over the same runs, a FlowRun of a validated acyclic Flow, none of whose failures ends it, has
a step to be executed or looked at as long as not all have ended. -/
theorem stored_never_stuck (hvalid : validateFlowSpec r.lib (flowOf flows k o.spec).spec = none)
    (hac : (flowOf flows k o.spec).spec.Acyclic)
    (hsound : fatalEntry (flowOf flows k o.spec) o.status.steps = none)
    (hopen : allTerminal (flowOf flows k o.spec) o.status.steps = false) :
    collectWave (flowOf flows k o.spec) o.status.steps ≠ [] := by
  intro hwave
  obtain ⟨hwaits, -⟩ := stored_lawful hflows hwf hnew hrun k o ho
  have hended := terminal_of_exhausted (validateFlowSpec_valid hvalid) hac
    ⟨.inr ⟨hwave, anyRunning_of_empty_wave hwaits hwave⟩, hsound⟩
  have hall : allTerminal (flowOf flows k o.spec) o.status.steps = true :=
    List.all_eq_true.mpr fun step hstep => hended step.name (List.mem_map_of_mem hstep)
  rw [hopen] at hall
  cases hall

end Runs

def pausedFlow : Flow :=
  ⟨{ steps :=
      [{ name := "first", action := { type := .transform, transform := some ⟨[]⟩ } },
       { name := "pause", runAfter := ["first"]
         action := { type := .wait, wait := some ⟨"5m"⟩ } }] }⟩

def pausingReconciler : FlowRunReconciler :=
  { plainReconciler with lib := { plainLib with parseDuration := fun _ => .ok (5 * minute) } }

def pausedScript : Script := { chainScript with flows := fun _ => .ok pausedFlow }

theorem pausedScript_within : pausedScript.Within (.ofFlow .none pausedFlow) where
  fresh := rfl
  flows _ := rfl
  rejects _ h := by cases h

def pausedFirst : Call :=
  pausedScript.call pausingReconciler ⟨"default", "chain-1"⟩ (.single chainRun 0)

def pausedSecond : Call :=
  pausedScript.call pausingReconciler ⟨"default", "chain-1"⟩ pausedFirst.after

/-- The first step has succeeded, the one after it waits. -/
theorem paused_entries :
    ∃ o, pausedSecond.after.store.current ⟨"default", "chain-1"⟩ = some o ∧
      o.status.steps.map (fun e => (e.name, e.phase)) =
        [("first", .succeeded), ("pause", .waiting)] ∧
      (o.status.steps.map StepRunStatus.name).Nodup ∧
      ∀ e ∈ o.status.steps, e.phase = .waiting → ∃ step ∈ pausedFlow.spec.steps,
        step.name = e.name ∧ step.action.type = .wait ∧
          dependenciesMet step o.status.steps pausedFlow.spec.steps false = true := by
  have hstored : (pausedSecond.after.store.current ⟨"default", "chain-1"⟩).map
      (fun o => o.status.steps.map fun e => (e.name, e.phase)) =
        some [("first", .succeeded), ("pause", .waiting)] := by
    decide
  obtain ⟨o, ho, hsteps⟩ := Option.map_eq_some_iff.mp hstored
  have hhist : History pausingReconciler (.ofFlow .none pausedFlow) (.single chainRun 0)
      [pausedFirst, pausedSecond] pausedSecond.after :=
    Script.history_call pausedScript_within (Script.history_call pausedScript_within (.nil _))
  have hentries := stored_entries (ofFlow_unedited .none pausedFlow) (World.single_wf rfl)
    (throughout_single rfl) hhist.runs _ o ho
  refine ⟨o, ho, hsteps, hentries.1, ?_⟩
  intro e he hwaits
  exact (hentries.2.2 e he (by rw [hwaits]; rfl)).2

theorem chainFirst_runs : Runs plainReconciler (.ofFlow .none chainFlow)
    ⟨.single chainRun 0, []⟩ ⟨chainFirst.after, []⟩ :=
  (Script.history_call chainScript_within (.nil _)).runs

theorem chainFirst_stored :
    ∃ o, chainFirst.after.store.current ⟨"default", "chain-1"⟩ = some o ∧
      fatalEntry chainFlow o.status.steps = none ∧
      allTerminal chainFlow o.status.steps = false := by
  have hstored : (chainFirst.after.store.current ⟨"default", "chain-1"⟩).map (fun o =>
      (fatalEntry chainFlow o.status.steps, allTerminal chainFlow o.status.steps)) =
        some (none, false) := by decide
  obtain ⟨o, ho, heq⟩ := Option.map_eq_some_iff.mp hstored
  exact ⟨o, ho, Prod.mk.inj heq⟩

theorem chain_never_stuck :
    ∃ o, chainFirst.after.store.current ⟨"default", "chain-1"⟩ = some o ∧
      collectWave chainFlow o.status.steps ≠ [] := by
  obtain ⟨o, ho, hsound, hopen⟩ := chainFirst_stored
  have hac : chainFlow.spec.Acyclic :=
    FlowSpec.acyclic_of_rank (fun name => if name = "first" then 0 else 1) (by decide)
  have hvalid : validateFlowSpec plainReconciler.lib chainFlow.spec = none := by decide
  exact ⟨o, ho, stored_never_stuck (ofFlow_unedited .none chainFlow) (World.single_wf rfl)
    (throughout_single rfl) chainFirst_runs _ o ho hvalid hac hsound hopen⟩

/-- One transition of the state machine, as the server stores it. -/
def Stored (r : FlowRunReconciler) (flows : Flow → Prop) (spec : FlowRunSpec)
    (old stored : FlowRunStatus) : Prop :=
  ∃ new, stored = new.encode ∧ Transition r flows spec old new

/-- However calls, scans and users interleave, whatever reads return and whichever writes fail:
what is stored of a FlowRun has its first spec, and a status that the state machine reaches from
its first one. -/
theorem stored_reachable {r : FlowRunReconciler} {P : Policy} {w : World} {Q : Pool World Reply}
    (hwf : w.store.WF flowRunKind) (hrun : Runs r P ⟨w, []⟩ Q) (k : NamespacedName) (o : FlowRun)
    (ho : Q.world.store.current k = some o) :
    ∃ o₀, w.store.current k = some o₀ ∧ o.spec = o₀.spec ∧
      Relation.ReflTransGen (Stored r (FlowsOf P k o.spec) o.spec) o₀.status o.status := by
  let I : NamespacedName → FlowRunSpec → FlowRunStatus → Prop := fun k spec status =>
    ∃ o₀, w.store.current k = some o₀ ∧ spec = o₀.spec ∧
      Relation.ReflTransGen (Stored r (FlowsOf P k spec) spec) o₀.status status
  have hI : Preserved r P I := by
    rintro k spec old new ⟨o₀, ho₀, hspec, hreach⟩ htrans
    exact ⟨o₀, ho₀, hspec, hreach.tail ⟨new, rfl, htrans⟩⟩
  have hinit : Throughout I w := fun k o ho => ⟨o, ho, rfl, .refl⟩
  exact (Runs.underway hI hwf hinit hrun).1.2 k o ho

theorem chain_reachable :
    ∃ o, chainFirst.after.store.current ⟨"default", "chain-1"⟩ = some o ∧
      Relation.ReflTransGen (Stored plainReconciler (FlowsOf (.ofFlow .none chainFlow)
        ⟨"default", "chain-1"⟩ o.spec) o.spec) {} o.status := by
  obtain ⟨o, ho, -⟩ := chainFirst_stored
  obtain ⟨o₀, ho₀, -, hreach⟩ :=
    stored_reachable (World.single_wf rfl) chainFirst_runs _ o ho
  cases ho₀
  exact ⟨o, ho, hreach⟩

end KubeZap
