import Mathlib.Logic.Relation
import KubeZap.Controller.Server
import KubeZap.Controller.Wave

/-! # The protocol of one Reconcile call

What a call of `Reconcile` may do, without how it does it: a stage keeps the
FlowRun that the call holds in memory and what it has learned, and a move is one
request with its reply. Every write move says what the written object is in terms
of the object held, and under which conditions it is made. That `Reconcile`
follows the protocol is proved in `Conformance`; everything proved about runs is
proved from the moves.
-/

namespace KubeZap

open Foundation
open Foundation.Versioned (WriteError)

inductive Stage
  | idle
  /-- the FlowRun was read -/
  | loaded (fr : FlowRun)
  /-- its Flow does not exist -/
  | orphaned (fr : FlowRun)
  /-- its Flow was read; `checked` is when its age was found acceptable -/
  | admitted (fr : FlowRun) (flow : Flow) (checked : Option Time)
  /-- the finalizer was written -/
  | entering (fr : FlowRun) (flow : Flow)
  /-- the wave: steps that returned, steps to come -/
  | executing (fr : FlowRun) (flow : Flow) (outs : List (FlowStep × StepReturn))
      (rest : List FlowStep)
  /-- immediate transitions were written -/
  | inlined (fr : FlowRun) (d : Dispatch)
  /-- a fatal step failure was written -/
  | failing (fr : FlowRun)
  /-- the final phase was written; `obj` is to be written next -/
  | releasing (obj : FlowRun)
  | closed (result : Result)
  /-- the startup scan, with the FlowRuns it listed -/
  | scanning (items : List FlowRun)
  | scanReleasing (items : List FlowRun) (obj : FlowRun)

def Stage.after (x : Except WriteError FlowRun) (next : FlowRun → Stage) : Stage :=
  match x with
  | .ok answer => next answer
  | .error e => .closed { err := some (.write e) }

theorem Stage.after_of {p : Stage → Prop} {x : Except WriteError FlowRun}
    {next : FlowRun → Stage} (hclosed : ∀ result, p (.closed result))
    (hnext : ∀ answer, x = .ok answer → p (next answer)) : p (.after x next) := by
  cases x with
  | error e => exact hclosed _
  | ok answer => exact hnext answer rfl

/-! ## Conditions -/

def stopRequested (fr : FlowRun) : Bool :=
  fr.metadata.deletionTimestamp.isSome || cancelRequested fr

/-- The operator's execution timeout does not end the FlowRun at `t`. -/
def WithinTimeout (r : FlowRunReconciler) (fr : FlowRun) (t : Time) : Prop :=
  ∀ start, fr.status.startTime = some start → t - start ≤ r.executionTimeout

/-- The age of the FlowRun was looked at, if there is a limit to it. -/
def Live (r : FlowRunReconciler) (fr : FlowRun) (checked : Option Time) : Prop :=
  0 < r.executionTimeout → fr.status.startTime ≠ none →
    ∃ t, checked = some t ∧ WithinTimeout r fr t

/-- The data a call dispatches with is computed from the FlowRun it holds. -/
structure DispatchOf (r : FlowRunReconciler) (flow : Flow) (fr : FlowRun) (d : Dispatch) : Prop where
  flow_eq : d.flow = flow
  stepResults_eq : d.stepResults = rebuildStepResults fr.status.steps
  params_eq : resolveFlowParams r.lib flow.spec.params fr.spec.params d.stepResults
    fr.spec.triggerData = .ok d.params

structure Dispatching (r : FlowRunReconciler) (flow : Flow) (fr : FlowRun)
    (checked : Option Time) (d : Dispatch) : Prop where
  running : fr.status.phase = .running
  live : Live r fr checked
  data : DispatchOf r flow fr d
  unfinished : allTerminal flow fr.status.steps = false

structure Ready (flow : Flow) (statuses : List StepRunStatus) (step : FlowStep) : Prop where
  mem : step ∈ flow.spec.steps
  deps : dependenciesMet step statuses flow.spec.steps
    (flow.spec.failurePolicy == .continuing) = true
  fresh : processed statuses step.name = false

inductive InlineStep (r : FlowRunReconciler) (d : Dispatch) (spec : FlowRunSpec) :
    List StepRunStatus → List StepRunStatus → Prop
  | skip {xs : List StepRunStatus} {step : FlowStep} {e : StepRunStatus} :
      Ready d.flow xs step → e.name = step.name → e.phase = .skipped → e.results = [] →
      (allDepsSkipped step xs = true ∨ step.when ≠ [] ∧
        evaluateWhen r step.when d.stepResults xs spec.triggerData d.params = .ok false) →
      InlineStep r d spec xs (upsertStepStatus xs e)
  | fail {xs : List StepRunStatus} {step : FlowStep} {e : StepRunStatus} :
      Ready d.flow xs step → e.name = step.name → e.phase = .failed → e.results = [] →
      failureContinues d.flow.spec step = true →
      InlineStep r d spec xs (upsertStepStatus xs e)

abbrev Inlined (r : FlowRunReconciler) (d : Dispatch) (spec : FlowRunSpec) :
    List StepRunStatus → List StepRunStatus → Prop :=
  Relation.ReflTransGen (InlineStep r d spec)

structure WaitEntry (flow : Flow) (statuses : List StepRunStatus) (step : FlowStep)
    (e : StepRunStatus) : Prop where
  mem : step ∈ collectWave flow statuses
  wait : step.action.type = .wait
  name_eq : e.name = step.name
  results_eq : e.results = []
  phase : e.phase = .waiting ∨ e.phase = .succeeded ∨ e.phase = .failed

/-- Nothing is left to do: every step ended, or none is ready and none is active. -/
structure Exhausted (flow : Flow) (statuses : List StepRunStatus) : Prop where
  done : allTerminal flow statuses = true ∨
    collectWave flow statuses = [] ∧ anyRunning flow statuses = false
  sound : fatalEntry flow statuses = none

/-- The stages in which a call may end the FlowRun, and in which phase. -/
inductive MayFinish : Stage → FlowRun → FlowRunPhase → Prop
  | cancel {fr : FlowRun} : fr.status.phase = .running → stopRequested fr = true →
      MayFinish (.loaded fr) fr .cancelled
  | orphaned {fr : FlowRun} : MayFinish (.orphaned fr) fr .failed
  | admitted {fr : FlowRun} {flow : Flow} {checked : Option Time} :
      fr.status.phase = .running → MayFinish (.admitted fr flow checked) fr .failed
  | failing {fr : FlowRun} : MayFinish (.failing fr) fr .failed

inductive MayStart : Stage → FlowRun → Flow → Prop
  | admitted {fr : FlowRun} {flow : Flow} : fr.status.phase ≠ .running →
      MayStart (.admitted fr flow none) fr flow
  | entering {fr : FlowRun} {flow : Flow} : MayStart (.entering fr flow) fr flow

inductive MayInline (r : FlowRunReconciler) : Stage → FlowRun → Dispatch → Prop
  | admitted {fr : FlowRun} {flow : Flow} {checked : Option Time} {d : Dispatch} :
      Dispatching r flow fr checked d → (∃ step, Ready flow fr.status.steps step) →
      MayInline r (.admitted fr flow checked) fr d
  | inlined {fr : FlowRun} {d : Dispatch} : MayInline r (.inlined fr d) fr d

structure Continuing (fr : FlowRun) : Prop where
  phase : fr.status.phase.terminal = false
  wanted : fr.status.phase = .running → stopRequested fr = false

/-! ## Moves -/

inductive Moves (r : FlowRunReconciler) (key : NamespacedName) :
    Stage → (q : Req) → Reply q → Stage → Prop
  | now (σ : Stage) (t : Time) : Moves r key σ .now t σ
  | check {fr : FlowRun} {flow : Flow} {checked : Option Time} {t : Time} :
      WithinTimeout r fr t →
      Moves r key (.admitted fr flow checked) .now t (.admitted fr flow (some t))
  | read (fr : FlowRun) : Moves r key .idle (.getFlowRun key) (.ok fr) (.loaded fr)
  | readFails (e : ReadError) (result : Result) :
      Moves r key .idle (.getFlowRun key) (.error e) (.closed result)
  | reread {fr : FlowRun} {d : Dispatch} (x : Except ReadError FlowRun) (result : Result) :
      Moves r key (.inlined fr d) (.getFlowRun key) x (.closed result)
  | trigger {fr : FlowRun} {k : NamespacedName} (x : Except ReadError (Option FlowRunGCPolicy)) :
      fr.status.phase.terminal = true → Moves r key (.loaded fr) (.getTrigger k) x (.loaded fr)
  | list {fr : FlowRun} {ns : Option String} {labels : StringMap String}
      (x : Except ReadError (List FlowRun)) :
      fr.status.phase.terminal = true →
      Moves r key (.loaded fr) (.listFlowRuns ns labels) x (.loaded fr)
  | delete {fr o : FlowRun} (x : Except WriteError Unit) :
      fr.status.phase.terminal = true → Moves r key (.loaded fr) (.delete o) x (.loaded fr)
  | flow {fr : FlowRun} (flow : Flow) :
      Continuing fr →
      Moves r key (.loaded fr) (.getFlow ⟨fr.metadata.name.namespace_, fr.spec.flowRef⟩) (.ok flow)
        (.admitted fr flow none)
  | flowMissing {fr : FlowRun} (msg : String) :
      Continuing fr →
      Moves r key (.loaded fr) (.getFlow ⟨fr.metadata.name.namespace_, fr.spec.flowRef⟩)
        (.error (.notFound msg)) (.orphaned fr)
  | flowFails {fr : FlowRun} (e : ReadError) :
      Moves r key (.loaded fr) (.getFlow ⟨fr.metadata.name.namespace_, fr.spec.flowRef⟩) (.error e)
        (.closed { err := some (.read e) })
  | addFinalizer {fr : FlowRun} {flow : Flow} (x : Except WriteError FlowRun) :
      fr.status.phase ≠ .running →
      Moves r key (.admitted fr flow none) (.update fr.addFinalizer) x
        (.after x fun o => .entering o flow)
  | start {σ : Stage} {fr : FlowRun} {flow : Flow} (t : Time) (x : Except WriteError FlowRun) :
      MayStart σ fr flow →
      Moves r key σ (.updateStatus (fr.start t)) x
        (.after x fun o => .admitted o flow none)
  | inline {σ : Stage} {fr : FlowRun} {d : Dispatch} {xs : List StepRunStatus}
      (x : Except WriteError FlowRun) :
      MayInline r σ fr d → Inlined r d fr.spec fr.status.steps xs →
      Moves r key σ (.updateStatus (fr.setSteps xs)) x
        (.after x fun o => .inlined o d)
  | inlineFail {σ : Stage} {fr : FlowRun} {d : Dispatch} {xs : List StepRunStatus}
      {step : FlowStep} {e : StepRunStatus} (x : Except WriteError FlowRun) :
      MayInline r σ fr d → Inlined r d fr.spec fr.status.steps xs → Ready d.flow xs step →
      e.name = step.name → e.phase = .failed → e.results = [] →
      Moves r key σ (.updateStatus (fr.setSteps (upsertStepStatus xs e))) x
        (.after x fun o => .failing o)
  | wait {fr : FlowRun} {flow : Flow} {checked : Option Time} {d : Dispatch} {step : FlowStep}
      {e : StepRunStatus} (x : Except WriteError FlowRun) (result : Result) :
      Dispatching r flow fr checked d → WaitEntry flow fr.status.steps step e →
      (e.phase = .failed → failureContinues flow.spec step = true) →
      Moves r key (.admitted fr flow checked) (.updateStatus (fr.upsertStep e)) x
        (.after x fun _ => .closed result)
  | waitFail {fr : FlowRun} {flow : Flow} {checked : Option Time} {d : Dispatch}
      {step : FlowStep} {e : StepRunStatus} (x : Except WriteError FlowRun) :
      Dispatching r flow fr checked d → WaitEntry flow fr.status.steps step e →
      e.phase = .failed →
      Moves r key (.admitted fr flow checked) (.updateStatus (fr.upsertStep e)) x
        (.after x fun o => .failing o)
  | execute {fr : FlowRun} {flow : Flow} {checked : Option Time} {d : Dispatch}
      {step : FlowStep} {rest : List FlowStep} {c : StepCall} (ret : StepReturn) :
      Dispatching r flow fr checked d →
      (∀ s ∈ flow.spec.steps, inlineVerdict r d fr s = .pass) →
      collectWave flow fr.status.steps = step :: rest →
      (∀ s ∈ step :: rest, s.action.type ≠ .wait) → c.step = step → StepOk step ret →
      Moves r key (.admitted fr flow checked) (.executeStep c) ret
        (.executing fr flow [(step, ret)] rest)
  | executeNext {fr : FlowRun} {flow : Flow} {outs : List (FlowStep × StepReturn)}
      {step : FlowStep} {rest : List FlowStep} {c : StepCall} (ret : StepReturn) :
      c.step = step → StepOk step ret →
      Moves r key (.executing fr flow outs (step :: rest)) (.executeStep c) ret
        (.executing fr flow (outs ++ [(step, ret)]) rest)
  | batch {fr : FlowRun} {flow : Flow} {outs : List (FlowStep × StepReturn)}
      (x : Except WriteError FlowRun) :
      (∀ o ∈ outs, o.2.transport = false) → (∀ o ∈ outs, o.2.fatal flow o.1 = false) →
      Moves r key (.executing fr flow outs [])
        (.updateStatus (fr.setSteps (waveStatuses r.lib flow fr.status.steps outs))) x
        (.after x fun _ => .closed { requeue := true })
  | batchFail {fr : FlowRun} {flow : Flow} {outs : List (FlowStep × StepReturn)}
      (x : Except WriteError FlowRun) :
      (∀ o ∈ outs, o.2.transport = false) →
      Moves r key (.executing fr flow outs [])
        (.updateStatus (fr.setSteps (waveStatuses r.lib flow fr.status.steps outs))) x
        (.after x fun o => .failing o)
  | finish {σ : Stage} {fr : FlowRun} {phase : FlowRunPhase} (reason msg : String)
      (t since : Time) (x : Except WriteError FlowRun) :
      MayFinish σ fr phase →
      Moves r key σ (.updateStatus (fr.finish phase reason msg t since)) x
        (.after x fun o => .releasing o.removeFinalizer)
  | succeed {fr : FlowRun} {flow : Flow} {checked : Option Time} (t since : Time)
      (x : Except WriteError FlowRun) :
      fr.status.phase = .running → Live r fr checked → Exhausted flow fr.status.steps →
      Moves r key (.admitted fr flow checked) (.updateStatus (fr.succeed t since)) x
        (.after x fun o => .releasing (o.setPhaseLabel .succeeded).removeFinalizer)
  | release {obj : FlowRun} (x : Except WriteError FlowRun) :
      Moves r key (.releasing obj) (.update obj) x (.closed { err := writeResult x })

inductive ScanMoves : Stage → (q : Req) → Reply q → Stage → Prop
  | now (σ : Stage) (t : Time) : ScanMoves σ .now t σ
  | list (x : Except ReadError (List FlowRun)) :
      ScanMoves .idle (.listFlowRuns none []) x (.scanning (x.toOption.getD []))
  | finish {items : List FlowRun} {fr : FlowRun} (reason msg : String) (t since : Time)
      (x : Except WriteError FlowRun) :
      fr ∈ items → fr.status.phase = .running →
      ScanMoves (.scanning items) (.updateStatus (fr.finish .failed reason msg t since)) x
        (match x with
          | .ok o => .scanReleasing items o.removeFinalizer
          | .error _ => .scanning items)
  | release {items : List FlowRun} {obj : FlowRun} (x : Except WriteError FlowRun) :
      ScanMoves (.scanReleasing items obj) (.update obj) x (.scanning items)

inductive Returns (r : FlowRunReconciler) : Stage → Result → Prop
  | closed (result : Result) : Returns r (.closed result) result
  | collected {fr : FlowRun} (result : Result) :
      fr.status.phase.terminal = true → Returns r (.loaded fr) result
  | pending {fr : FlowRun} {flow : Flow} {checked : Option Time} {d : Dispatch} :
      Dispatching r flow fr checked d → collectWave flow fr.status.steps = [] →
      anyRunning flow fr.status.steps = true →
      Returns r (.admitted fr flow checked) { requeueAfter := 5 * second }
  | unreachable {fr : FlowRun} {flow : Flow} {outs : List (FlowStep × StepReturn)} :
      (∃ o ∈ outs, o.2.transport = true) →
      Returns r (.executing fr flow outs []) { requeueAfter := executorTransportBackoff }

end KubeZap
