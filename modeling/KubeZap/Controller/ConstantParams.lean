import KubeZap.Controller.MapOrder
import KubeZap.Controller.Order

/-! # The parameters of a run

Every call of a run computes the parameters anew, from the results recorded so
far. A supplied value is a template; where it asks for the result of a step of the
Flow, the parameter has one value before that step and another one after it. Each call
iterates over the results and over the headers in an order of its own.
-/

namespace KubeZap

open Foundation

/-- The parameters that a call computes when it holds this FlowRun. -/
def FlowRun.resolvedParams (lib : GoLib) (flow : Flow) (o : FlowRun) :
    Except String (StringMap String) :=
  resolveFlowParams lib flow.spec.params o.spec.params (rebuildStepResults o.status.steps)
    o.spec.triggerData

/-- The same, in some order of the maps. -/
def FlowRun.ResolvesParams (lib : GoLib) (flow : Flow) (o : FlowRun)
    (result : Except String (StringMap String)) : Prop :=
  ∃ stepResults triggerData, (rebuildStepResults o.status.steps).Perm stepResults ∧
    TriggerData.Reordered o.spec.triggerData triggerData ∧
    result = resolveFlowParams lib flow.spec.params o.spec.params stepResults triggerData

/-- The name between `steps.` and `.results.` of a token. -/
def tokenStep (token : List Char) : Option String :=
  let rest := trimPrefix token "steps.".toList
  (Scan.index rest ".results.".toList).map fun idx => String.ofList (rest.take idx)

def asksSteps (flow : Flow) (raw : String) : Bool :=
  (templateSegments raw.toList).any fun
    | .lit _ => false
    | .token t => "steps.".toList.isPrefixOf t &&
        flow.spec.steps.any fun step => tokenStep t == some (underscored step.name)

/-- No value supplied for a declared parameter asks for a result of a step. -/
def FlowRunSpec.paramsStepless (flow : Flow) (spec : FlowRunSpec) : Bool :=
  flow.spec.params.all fun decl =>
    (((spec.params.map fun pv => (pv.name, pv.value)).reverse.lookup decl.name).map
      (asksSteps flow)).all (! ·)

theorem name_of_mem_rebuildStepResults {xs : List StepRunStatus}
    {e : String × StringMap String} (h : e ∈ rebuildStepResults xs) : ∃ s ∈ xs, s.name = e.1 := by
  revert h
  -- the entries of the map come from the statuses folded in so far
  refine List.foldlRecOn (motive := fun m => e ∈ m → ∃ s ∈ xs, s.name = e.1) xs _ nofun ?_
  intro m hm s hs he
  split at he
  · rcases StringMap.mem_set he with rfl | he
    · exact ⟨s, hs, rfl⟩
    · exact hm he
  · exact hm he

theorem resolveStepToken_unmatched {token : List Char} {stepResults : StringMap (StringMap String)}
    (h : ∀ e ∈ stepResults, tokenStep token ≠ some (underscored e.1)) :
    resolveStepToken token stepResults = {} := by
  unfold resolveStepToken
  unfold tokenStep at h
  dsimp only at h ⊢
  cases hidx : Scan.index (trimPrefix token "steps.".toList) ".results.".toList with
  | none => rfl
  | some idx =>
    simp only [hidx, Option.map_some] at h
    have hfind : stepResults.find? (fun e => underscored e.1 ==
        String.ofList (List.take idx (trimPrefix token "steps.".toList))) = none := by
      rw [List.find?_eq_none]
      intro e he heq
      exact h e he (congrArg some (eq_of_beq heq).symm)
    simp only [hfind]

/-- The results are those of steps of the Flow. -/
def ResultsOf (flow : Flow) (stepResults : StringMap (StringMap String)) : Prop :=
  ∀ e ∈ stepResults, ∃ step ∈ flow.spec.steps, step.name = e.1

theorem substituteVars_of_stepless {lib : GoLib} {flow : Flow} {raw : String}
    {stepResults : StringMap (StringMap String)} {triggerData : Option TriggerData}
    {params : StringMap String} (hraw : asksSteps flow raw = false)
    (hresults : ResultsOf flow stepResults) :
    substituteVars lib raw ⟨stepResults, triggerData, params⟩ =
      substituteVars lib raw ⟨[], triggerData, params⟩ := by
  unfold substituteVars
  rw [interpolateTemplate_eq_expand, interpolateTemplate_eq_expand]
  dsimp only
  rw [expand_congr]
  intro t ht
  unfold resolveInterpolationToken
  split
  · rename_i hpre
    have hno : ∀ step ∈ flow.spec.steps, tokenStep t ≠ some (underscored step.name) := by
      intro step hstep heq
      have hany := List.any_eq_false.mp hraw _ ht
      simp only [hpre, Bool.true_and, List.any_eq_true, beq_iff_eq, not_exists, not_and] at hany
      exact hany step hstep heq
    have hnone : resolveStepToken t [] = {} := resolveStepToken_unmatched (by simp)
    rw [hnone, resolveStepToken_unmatched]
    intro e he
    obtain ⟨step, hstep, hname⟩ := hresults e he
    rw [← hname]
    exact hno step hstep
  · rfl

theorem foldlM_congr {α β : Type} {m : Type → Type} [Monad m] {f g : β → α → m β} {l : List α}
    (h : ∀ a ∈ l, ∀ b, f b a = g b a) (b : β) : l.foldlM f b = l.foldlM g b := by
  induction l generalizing b with
  | nil => rfl
  | cons a l ih =>
    rw [List.foldlM_cons, List.foldlM_cons, h a List.mem_cons_self]
    exact bind_congr fun b' => ih (fun a' ha' => h a' (List.mem_cons_of_mem _ ha')) b'

theorem substituteVars_reordered {lib : GoLib} {td td' : Option TriggerData}
    (h : TriggerData.Reordered td td')
    (hheaders : ∀ d ∈ td, (d.headers.map fun e => lib.toLower e.1).Nodup) (raw : String) :
    substituteVars lib raw ⟨[], td, []⟩ = substituteVars lib raw ⟨[], td', []⟩ := by
  have hre : TemplateEnv.Reordered ⟨[], td, []⟩ ⟨[], td', []⟩ := ⟨.rfl, h, .rfl, List.nodup_nil⟩
  have hc : TemplateEnv.Collisionless lib ⟨[], td, []⟩ := ⟨List.nodup_nil, hheaders⟩
  unfold substituteVars
  rw [interpolateTemplate_reordered hre hc]

theorem resolveFlowParams_of_stepless {lib : GoLib} {flow : Flow} {spec : FlowRunSpec}
    {stepResults : StringMap (StringMap String)} {triggerData : Option TriggerData}
    (hspec : spec.paramsStepless flow = true) (hresults : ResultsOf flow stepResults)
    (htrigger : TriggerData.Reordered spec.triggerData triggerData)
    (hheaders : ∀ td ∈ spec.triggerData, (td.headers.map fun e => lib.toLower e.1).Nodup) :
    resolveFlowParams lib flow.spec.params spec.params stepResults triggerData =
      resolveFlowParams lib flow.spec.params spec.params [] spec.triggerData := by
  unfold resolveFlowParams
  rw [← parseTriggerBody_reordered htrigger]
  apply foldlM_congr
  intro decl hdecl resolved
  have hone := List.all_eq_true.mp hspec decl hdecl
  unfold resolveFlowParam
  cases hraw : (spec.params.map fun pv => (pv.name, pv.value)).reverse.lookup decl.name with
  | none => rfl
  | some raw =>
    rw [hraw] at hone
    have hasks : asksSteps flow raw = false := by simpa using hone
    simp only [substituteVars_of_stepless hasks hresults,
      substituteVars_reordered htrigger hheaders]

/-- Two calls of one run, the first of which finds `o₁` and the second `o₂`, give every
step and every `when` list the same parameters, each in its own order of the maps. -/
theorem params_constant {r : FlowRunReconciler} {P : Policy} {flows : NamespacedName → Flow}
    {w : World} {Q₁ Q₂ : Pool World Reply} (hflows : P.Unedited flows)
    (hwf : w.store.WF flowRunKind) (hnew : Throughout (fun _ _ status => status.steps = []) w)
    (h₁ : Runs r P ⟨w, []⟩ Q₁) (h₂ : Runs r P Q₁ Q₂) (k : NamespacedName) (o₁ o₂ : FlowRun)
    (ho₁ : Q₁.world.store.current k = some o₁) (ho₂ : Q₂.world.store.current k = some o₂)
    (hspec : o₂.spec = o₁.spec)
    (hstepless : o₁.spec.paramsStepless (flowOf flows k o₁.spec) = true)
    (hheaders : ∀ td ∈ o₁.spec.triggerData, (td.headers.map fun e => r.lib.toLower e.1).Nodup) :
    (∀ p₁ p₂, o₁.ResolvesParams r.lib (flowOf flows k o₁.spec) p₁ →
      o₂.ResolvesParams r.lib (flowOf flows k o₁.spec) p₂ → p₁ = p₂) ∧
      ∀ d₁ d₂, DispatchOf r (flowOf flows k o₁.spec) o₁ d₁ →
        DispatchOf r (flowOf flows k o₁.spec) o₂ d₂ → d₁.params = d₂.params := by
  have hnames {Q : Pool World Reply} (hrun : Runs r P ⟨w, []⟩ Q) {o : FlowRun}
      (ho : Q.world.store.current k = some o) :
      ResultsOf (flowOf flows k o.spec) (rebuildStepResults o.status.steps) := by
    intro e he
    obtain ⟨s, hs, hname⟩ := name_of_mem_rebuildStepResults he
    have hord :=
      (Runs.underway (ordered_preserved hflows) hwf (ordered_of_new hnew) hrun).1.2 k o ho
    obtain ⟨step, hstep, hstepname, _⟩ := hord.entries s hs
    exact ⟨step, hstep, hstepname.trans hname⟩
  -- both calls resolve what a call without any results resolves
  have hresolved {o : FlowRun} (ho : o.spec = o₁.spec)
      (hresults : ResultsOf (flowOf flows k o.spec) (rebuildStepResults o.status.steps))
      {p : Except String (StringMap String)}
      (hp : o.ResolvesParams r.lib (flowOf flows k o₁.spec) p) :
      p = resolveFlowParams r.lib (flowOf flows k o₁.spec).spec.params o₁.spec.params []
        o₁.spec.triggerData := by
    obtain ⟨stepResults, triggerData, hperm, htrigger, rfl⟩ := hp
    rw [ho] at hresults htrigger ⊢
    exact resolveFlowParams_of_stepless hstepless
      (fun e he => hresults e (hperm.mem_iff.mpr he)) htrigger hheaders
  have hsame : ∀ p₁ p₂, o₁.ResolvesParams r.lib (flowOf flows k o₁.spec) p₁ →
      o₂.ResolvesParams r.lib (flowOf flows k o₁.spec) p₂ → p₁ = p₂ := by
    intro p₁ p₂ hp₁ hp₂
    rw [hresolved rfl (hnames h₁ ho₁) hp₁, hresolved hspec (hnames (h₁.trans h₂) ho₂) hp₂]
  refine ⟨hsame, fun d₁ d₂ hd₁ hd₂ => ?_⟩
  have hp₁ := hd₁.params_eq
  have hp₂ := hd₂.params_eq
  rw [hd₁.stepResults_eq] at hp₁
  rw [hd₂.stepResults_eq] at hp₂
  exact Except.ok.inj (hsame _ _ ⟨_, _, .rfl, .refl _, hp₁.symm⟩ ⟨_, _, .rfl, .refl _, hp₂.symm⟩)

def greetingFlow : Flow :=
  ⟨{ params := [{ name := "greeting" }]
     steps :=
      [{ name := "first", action := { type := .transform, transform := some ⟨[("out", "hello")]⟩ } },
       { name := "second", runAfter := ["first"]
         action := { type := .transform, transform := some ⟨[]⟩ } }] }⟩

def greetingRun (value : String) : FlowRun where
  metadata := { name := ⟨"default", "greeting-1"⟩ }
  spec := { flowRef := "greeting", params := [{ name := "greeting", value := value }] }

def greetingCall (value : String) : Call :=
  { chainScript with flows := fun _ => .ok greetingFlow }.call plainReconciler
    ⟨"default", "greeting-1"⟩ (.single (greetingRun value) 0)

theorem greetingCall_history (value : String) :
    History plainReconciler (.ofFlow .none greetingFlow) (.single (greetingRun value) 0)
      [greetingCall value] (greetingCall value).after :=
  Script.history_call ⟨rfl, fun _ => rfl, fun _ h => by cases h⟩ (.nil _)

/-- A template for the result of a step that the Flow does not have. -/
def strayValue : String := "$(steps.third.results.out)"

theorem params_constant_greeting :
    ∃ o, (greetingCall strayValue).after.store.current ⟨"default", "greeting-1"⟩ = some o ∧
      (greetingRun strayValue).resolvedParams plainLib greetingFlow =
        o.resolvedParams plainLib greetingFlow := by
  have hstart : (World.single (greetingRun strayValue) 0).store.current
      ⟨"default", "greeting-1"⟩ = some (greetingRun strayValue) := by decide +kernel
  have hspec : ((greetingCall strayValue).after.store.current ⟨"default", "greeting-1"⟩).map
      FlowRun.spec = some (greetingRun strayValue).spec := by decide +kernel
  have hstepless : (greetingRun strayValue).spec.paramsStepless greetingFlow = true := by
    decide +kernel
  have hrun := (greetingCall_history strayValue).runs
  obtain ⟨o, ho, hspec⟩ := Option.map_eq_some_iff.mp hspec
  exact ⟨o, ho, (params_constant (ofFlow_unedited _ _) (World.single_wf rfl)
    (throughout_single rfl) .refl hrun _ _ o hstart ho hspec hstepless (by rintro _ ⟨⟩)).1 _ _
    ⟨_, _, .rfl, .refl _, rfl⟩ ⟨_, _, .rfl, .refl _, rfl⟩⟩

/-- Before `first` has run the parameter is its own template, afterwards `hello`. -/
theorem greeting_changes :
    History plainReconciler (.ofFlow .none greetingFlow)
        (.single (greetingRun "$(steps.first.results.out)") 0)
        [greetingCall "$(steps.first.results.out)"]
        (greetingCall "$(steps.first.results.out)").after ∧
      (greetingRun "$(steps.first.results.out)").resolvedParams plainLib greetingFlow =
        .ok [("greeting", "$(steps.first.results.out)")] ∧
      ((greetingCall "$(steps.first.results.out)").after.store.current
        ⟨"default", "greeting-1"⟩).map (fun o => o.resolvedParams plainLib greetingFlow) =
        some (.ok [("greeting", "hello")]) := by
  refine ⟨greetingCall_history _, ?_, ?_⟩ <;> decide +kernel

end KubeZap
