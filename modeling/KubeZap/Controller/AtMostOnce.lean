import KubeZap.Controller.Simulation

/-! # Steps that succeeded are not executed again

A wave is recorded by one status write after all of its steps returned, and not at
all when the executor was unreachable for one of them. So the effect of a step is
on record after the call that executed it, unless the same wave met a transport
error: exactly then the step is executed again.
-/

namespace KubeZap

open Foundation
open Foundation.Versioned (Store WriteError)

/-! ## What a call did -/

/-- `executeStep` was called for the step. -/
def Call.Invoked (c : Call) (name : String) : Prop :=
  ∃ o ∈ executions c.trace, o.1.name = name

def StepReturn.succeeded (ret : StepReturn) : Bool :=
  match ret.result with
  | .ok s => s.phase == .succeeded
  | .error _ => false

def Call.Succeeded (c : Call) (name : String) : Prop :=
  ∃ o ∈ executions c.trace, o.1.name = name ∧ o.2.succeeded = true

/-- The wave of the call has both a transport error and a step that succeeded. -/
def Call.Mixed (c : Call) : Prop :=
  (∃ o ∈ executions c.trace, o.2.transport = true) ∧
    ∃ o ∈ executions c.trace, o.2.succeeded = true

instance (c : Call) (name : String) : Decidable (c.Invoked name) :=
  inferInstanceAs (Decidable (∃ o ∈ executions c.trace, o.1.name = name))

instance (c : Call) (name : String) : Decidable (c.Succeeded name) :=
  inferInstanceAs (Decidable (∃ o ∈ executions c.trace, o.1.name = name ∧ o.2.succeeded = true))

instance (c : Call) : Decidable c.Mixed :=
  inferInstanceAs (Decidable ((∃ o ∈ executions c.trace, o.2.transport = true) ∧
    ∃ o ∈ executions c.trace, o.2.succeeded = true))

/-! ## What is on record -/

def Unfinished (w : World) (key : NamespacedName) (name : String) : Prop :=
  ∃ o, w.store.current key = some o ∧
    ∀ s, findStepStatus o.status.steps name = some s → s.phase.terminal = false

/-- The FlowRun, while it is stored, has a terminal entry for the step. -/
def Recorded (w : World) (key : NamespacedName) (name : String) : Prop :=
  ∀ o, w.store.current key = some o →
    ∃ s, findStepStatus o.status.steps name = some s ∧ s.phase.terminal = true

theorem Recorded.mono {w w' : World} {key : NamespacedName} {name : String}
    (hdesc : Descends w w') (h : Recorded w key name) : Recorded w' key name := by
  intro o' ho'
  obtain ⟨o, ho, _, habs⟩ := hdesc key o' ho'
  obtain ⟨s, hs, hterm⟩ := h o ho
  obtain ⟨s', hs', hphase, _⟩ := habs.steps.find hs hterm
  exact ⟨s', hs', by rw [hphase]; exact hterm⟩

theorem unfinished_of_mem_collectWave {w₀ w : World} {key : NamespacedName} {fr : FlowRun}
    {flow : Flow} {step : FlowStep} (hdesc : Descends w₀ w) (hfr : Fresh w key fr)
    (hstep : step ∈ collectWave flow fr.status.steps) : Unfinished w₀ key step.name := by
  obtain ⟨_, o, ho, hholds⟩ := hfr
  obtain ⟨o₀, ho₀, _, habs⟩ := hdesc key o ho
  refine ⟨o₀, ho₀, fun s hs => ?_⟩
  cases hterm : s.phase.terminal with
  | false => rfl
  | true =>
    -- a terminal entry would still be there when the wave was collected
    obtain ⟨s', hs', hphase, _⟩ := habs.steps.find hs hterm
    rw [← hholds.status] at hs'
    have := not_terminal_of_mem_collectWave hstep hs'
    rw [hphase, hterm] at this
    cases this

theorem waveStatuses_find {r : FlowRunReconciler} {flow : Flow} {xs : List StepRunStatus}
    {outs : List (FlowStep × StepReturn)} (hok : ∀ o ∈ outs, StepOk o.1 o.2)
    (hreach : ∀ o ∈ outs, o.2.transport = false) {o : FlowStep × StepReturn} (ho : o ∈ outs) :
    ∃ s, findStepStatus (waveStatuses r.lib flow xs outs) o.1.name = some s ∧
      s.phase.terminal = true := by
  have hnames : o.1.name ∈ (outs.map (waveEntry r.lib flow)).map StepRunStatus.name := by
    obtain ⟨_, _, hname, _, _⟩ := @waveEntry_final r.lib flow o (hok o ho) (hreach o ho)
    rw [← hname]
    exact List.mem_map_of_mem (List.mem_map_of_mem ho)
  obtain ⟨e, he, hfind⟩ := @Keyed.exists_find_foldl_upsert _ _ _ StepRunStatus.name xs _ _ hnames
  obtain ⟨o', ho', rfl⟩ := List.mem_map.mp he
  obtain ⟨s, _, _, hphase, hfinal⟩ :=
    @waveEntry_final r.lib flow o' (hok o' ho') (hreach o' ho')
  refine ⟨waveEntry r.lib flow o', ?_, ?_⟩
  · rw [waveStatuses_eq]
    exact hfind
  · rw [hphase]
    rcases hfinal with hp | hp <;> rw [hp] <;> rfl

/-! ## One call -/

def Stage.left : Stage → Bool
  | .failing _ | .releasing _ | .closed _ => true
  | .idle | .loaded _ | .orphaned _ | .admitted _ _ _ | .entering _ _ | .executing _ _ _ _
  | .inlined _ _ | .scanning _ | .scanReleasing _ _ => false

/-- The steps of `done` were unfinished when the call began, and once it has left
the wave they are on record. -/
structure Accounts (w₀ : World) (key : NamespacedName) (done : List (FlowStep × StepReturn))
    (w : World) (σ : Stage) : Prop where
  unfinished : ∀ o ∈ done, Unfinished w₀ key o.1.name
  recorded : σ.left = true → ∀ o ∈ done, Recorded w key o.1.name

section Call

variable {r : FlowRunReconciler} {P : Policy} {key : NamespacedName} {w₀ w w' : World}
variable {tr : List (Event Reply)} {done : List (FlowStep × StepReturn)}

theorem recorded_of_batch {fr answer : FlowRun} {flow : Flow}
    {outs : List (FlowStep × StepReturn)} (hwf : w.store.WF flowRunKind) (hfr : Fresh w key fr)
    (hwave : WaveOf fr flow outs []) (hreach : ∀ o ∈ outs, o.2.transport = false)
    (hw : Writes P flowRunKind.mergeStatus w
      (fr.setSteps (waveStatuses r.lib flow fr.status.steps outs)) (.ok answer) w') :
    ∀ o ∈ outs, Recorded w' key o.1.name := by
  intro o ho stored hstored
  obtain ⟨o', ho', hstatus⟩ := hw.stores_status hwf hfr.1
  rw [ho'] at hstored
  cases hstored
  obtain ⟨s, hs, hterm⟩ :=
    @waveStatuses_find r flow fr.status.steps outs hwave.returned hreach o ho
  refine ⟨s.encode, ?_, hterm⟩
  rw [hstatus, FlowRunStatus.encode_steps, findStepStatus_encode]
  simp [FlowRun.setSteps, hs]

theorem Moves.leaves {σ σ' : Stage} {q : Req} {x : Reply q} (hmove : Moves r key σ q x σ')
    (hwaved : Waved done σ) (hleft : σ'.left = true) :
    done = [] ∨ σ.left = true ∨ ∃ fr flow outs, σ = .executing fr flow outs [] ∧
      (∀ o ∈ outs, o.2.transport = false) ∧
      q = .updateStatus (fr.setSteps (waveStatuses r.lib flow fr.status.steps outs)) := by
  cases hmove with
  | now σ t => exact .inr (.inl hleft)
  | check | read | trigger | list | delete | flow | flowMissing | execute | executeNext =>
    cases hleft
  | readFails | reread | flowFails | addFinalizer | wait | waitFail | succeed => exact .inl hwaved
  | start t y hmay =>
    cases hmay with
    | admitted | entering => exact .inl hwaved
  | inline y hmay | inlineFail y hmay => exact .inl (hwaved.eq_nil hmay)
  | batch y hreach | batchFail y hreach => exact .inr (.inr ⟨_, _, _, rfl, hreach, rfl⟩)
  | finish reason msg t since y hmay =>
    cases hmay with
    | cancel | orphaned | admitted => exact .inl hwaved
    | failing => exact .inr (.inl rfl)
  | release y => exact .inr (.inl rfl)

theorem Accounts.silent {σ σ' : Stage} {q : Req} {x : Reply q} (hfresh : P.stale = false)
    (hnone : P.faults = .none) (hal : Along r P w₀ key tr w σ) (h : Accounts w₀ key (executions tr) w σ)
    (hserver : Server r P w q x w') (hmove : Moves r key σ q x σ') :
    Accounts w₀ key (executions tr) w' σ' := by
  have hdesc : Descends w w' := (hal.held.refines hal.wf hserver (.call hmove)).descends (.refl w)
  refine ⟨h.unfinished, fun hleft => ?_⟩
  rcases hmove.leaves hal.waved hleft with hnil | hbefore | ⟨fr, flow, outs, rfl, hreach, rfl⟩
  · rw [hnil]; simp
  · exact fun o ho => (h.recorded hbefore o ho).mono hdesc
  · have hw := hserver.updateStatus_inv
    have hfr : Fresh w key fr := hal.synced hfresh
    obtain ⟨answer, rfl⟩ := hw.ok_of_fresh hnone hfr (sameVersion_setSteps fr _)
    have houts : executions tr = outs := hal.waved
    rw [houts]
    exact recorded_of_batch hal.wf hfr hal.held.2 hreach hw

theorem Accounts.execute {σ σ' : Stage} {c : StepCall} {ret : StepReturn}
    (hfresh : P.stale = false) (hal : Along r P w₀ key tr w σ) (h : Accounts w₀ key (executions tr) w σ)
    (hmove : Moves r key σ (.executeStep c) ret σ') :
    Accounts w₀ key (executions tr ++ [(c.step, ret)]) w' σ' := by
  have hwave : ∃ fr flow, Fresh w key fr ∧ c.step ∈ collectWave flow fr.status.steps ∧
      σ'.left = false := by
    have hsync := hal.synced hfresh
    have hheld := hal.held
    cases hmove with
    | @execute fr flow checked d step rest _ _ _ _ hwave _ hstep _ =>
      exact ⟨fr, flow, hsync, by simp [hwave, hstep], rfl⟩
    | @executeNext fr flow outs step rest _ _ hstep _ =>
      exact ⟨fr, flow, hsync, by simp [← hheld.2.steps, hstep], rfl⟩
  obtain ⟨fr, flow, hfr, hmem, hleft⟩ := hwave
  refine ⟨fun o ho => ?_, fun hl => by rw [hleft] at hl; cases hl⟩
  rcases List.mem_append.mp ho with ho | ho
  · exact h.unfinished o ho
  · rw [List.mem_singleton.mp ho]
    exact unfinished_of_mem_collectWave hal.descends hfr hmem

theorem Accounts.step {σ σ' : Stage} {q : Req} {x : Reply q} (hfresh : P.stale = false)
    (hnone : P.faults = .none) (hal : Along r P w₀ key tr w σ) (h : Accounts w₀ key (executions tr) w σ)
    (hserver : Server r P w q x w') (hmove : Moves r key σ q x σ') :
    Accounts w₀ key (executions (tr ++ [⟨q, x⟩])) w' σ' := by
  rw [executions_append]
  cases q with
  | executeStep c => exact h.execute hfresh hal hmove
  | _ =>
    have hsilent := h.silent hfresh hnone hal hserver hmove
    simpa [execution, stepCall] using hsilent

theorem reconcile_accounts {result : Result} (hfresh : P.stale = false)
    (hnone : P.faults = .none) (hwf : w₀.store.WF flowRunKind)
    (hrun : Exec (Server r P) w₀ (reconcile r key) tr w' (some result)) :
    (∀ o ∈ executions tr, Unfinished w₀ key o.1.name) ∧
      ((∃ o ∈ executions tr, o.2.transport = true) ∨
        ∀ o ∈ executions tr, Recorded w' key o.1.name) := by
  obtain ⟨σ, hal, hacc, hret⟩ := reconcile_along hwf hrun
    (fun tr w σ => Accounts w₀ key (executions tr) w σ)
    ⟨by simp [executions], by simp [executions]⟩
    (fun tr w σ q x w' σ' hal hacc hserver hmove => hacc.step hfresh hnone hal hserver hmove)
  refine ⟨hacc.unfinished, ?_⟩
  have hwaved := hal.waved
  cases hret result rfl with
  | closed result => exact .inr (hacc.recorded rfl)
  | collected | pending =>
    have hnil : executions tr = [] := hwaved
    exact .inr (by simp [hnil])
  | @unreachable fr flow outs hout =>
    have houts : executions tr = outs := hwaved
    exact .inl (houts ▸ hout)

end Call

/-! ## Every history -/

section Histories

variable {r : FlowRunReconciler} {P : Policy} {w w' : World} {cs : List Call}

theorem History.not_invoked {key : NamespacedName} {name : String} (hfresh : P.stale = false)
    (hnone : P.faults = .none) (hhist : History r P w cs w') (hwf : w.store.WF flowRunKind)
    (hcomplete : ∀ c ∈ cs, c.result ≠ none) (hrec : Recorded w key name) :
    ∀ c ∈ cs, c.key = key → ¬ c.Invoked name := by
  refine hhist.each (fun w => Recorded w key name) hwf hrec hcomplete
    (fun _ _ _ h huser => h.mono huser.descends) ?_
  rintro ⟨k, w, tr, w', res⟩ hwf hrec hrun hcomplete
  refine ⟨hrec.mono (reconcile_descends hwf hrun).2, fun hkey => ?_⟩
  obtain ⟨result, rfl⟩ : ∃ result, res = some result := Option.ne_none_iff_exists'.mp hcomplete
  rintro ⟨o, ho, rfl⟩
  obtain ⟨stored, hstored, hopen⟩ := (reconcile_accounts hfresh hnone hwf hrun).1 o ho
  obtain ⟨s, hs, hterm⟩ := hrec stored (hkey ▸ hstored)
  rw [hopen s hs] at hterm
  cases hterm

/-- In every history of complete calls with fresh reads and writes that succeed, in
which no wave mixes a transport error with a success, a step that succeeded is not
executed by any later call. -/
theorem succeeded_steps_run_once (hfresh : P.stale = false) (hnone : P.faults = .none)
    (hwf : w.store.WF flowRunKind) (hhist : History r P w cs w')
    (hcomplete : ∀ c ∈ cs, c.result ≠ none) (hmixed : ∀ c ∈ cs, ¬ c.Mixed) :
    cs.Pairwise fun c d => c.key = d.key → ∀ name, c.Succeeded name → ¬ d.Invoked name := by
  induction hhist with
  | nil w => exact .nil
  | @call w w₁ w₂ k tr res cs hrun hrest ih =>
    have hdesc := reconcile_descends hwf hrun
    have hcomplete' : ∀ c ∈ cs, c.result ≠ none :=
      fun c hc => hcomplete c (List.mem_cons_of_mem _ hc)
    refine .cons ?_ (ih hdesc.1 hcomplete' fun c hc => hmixed c (List.mem_cons_of_mem _ hc))
    intro d hd hkey name hsucc hinv
    obtain ⟨result, rfl⟩ : ∃ result, res = some result :=
      Option.ne_none_iff_exists'.mp (hcomplete _ List.mem_cons_self)
    obtain ⟨o, ho, rfl, hret⟩ := hsucc
    have hrec : Recorded w₁ k o.1.name := by
      rcases (reconcile_accounts hfresh hnone hwf hrun).2 with htransport | hall
      · exact absurd ⟨htransport, o, ho, hret⟩ (hmixed _ List.mem_cons_self)
      · exact hall o ho
    exact hrest.not_invoked hfresh hnone hdesc.1 hcomplete' hrec d hd hkey.symm hinv
  | users huser _ ih => exact ih (huser.touched.change.wf hwf) hcomplete hmixed

end Histories

def notifyAndStamp : Flow :=
  ⟨{ steps :=
      [{ name := "notify"
         action := { type := .http, http := some { url := "http://example.com/hook" } } },
       { name := "stamp", action := { type := .transform, transform := some ⟨[]⟩ } }] }⟩

def notifyRun : FlowRun where
  metadata := { name := ⟨"default", "notify-1"⟩ }
  spec := { flowRef := "notify" }

variable (reply : ExecutorReply)

def notifyScript : Script where
  flows _ := .ok notifyAndStamp
  io _ := stepAnswers 0 fun _ _ => reply

theorem notifyScript_within :
    (notifyScript reply).Within (.ofFlow .none notifyAndStamp) where
  fresh := rfl
  flows _ := rfl
  rejects _ h := by cases h

def notifyFirst : Call :=
  (notifyScript reply).call plainReconciler ⟨"default", "notify-1"⟩ (.single notifyRun 0)

def notifySecond : Call :=
  (notifyScript reply).call plainReconciler ⟨"default", "notify-1"⟩ (notifyFirst reply).after

theorem notify_history :
    History plainReconciler (.ofFlow .none notifyAndStamp) (.single notifyRun 0)
      [notifyFirst reply, notifySecond reply] (notifySecond reply).after :=
  Script.history_call (notifyScript_within reply)
    (Script.history_call (notifyScript_within reply) (.nil _))

theorem notify_keys : (notifyFirst reply).key = (notifySecond reply).key := by
  rw [notifyFirst, notifySecond, Script.call_key, Script.call_key]

theorem succeeded_steps_run_once_answered :
    (notifyFirst (.answered ⟨200, "", ""⟩)).Succeeded "stamp" ∧
      ¬ (notifySecond (.answered ⟨200, "", ""⟩)).Invoked "stamp" := by
  have hpair := succeeded_steps_run_once rfl rfl (World.single_wf rfl)
    (notify_history (.answered ⟨200, "", ""⟩)) (by decide +kernel) (by decide +kernel)
  have hfirst : (notifyFirst (.answered ⟨200, "", ""⟩)).Succeeded "stamp" := by decide +kernel
  exact ⟨hfirst, (List.pairwise_pair.mp hpair) (notify_keys _) "stamp" hfirst⟩

/-- The executor refuses the connection: the transform is executed by both calls. -/
theorem succeeded_step_runs_twice :
    ∃ (P : Policy) (flow : Flow) (w w' : World) (cs : List Call),
      P = .ofFlow .none flow ∧ (flow.spec.steps.map FlowStep.name).Nodup ∧
      w.store.WF flowRunKind ∧ History plainReconciler P w cs w' ∧
      (∀ c ∈ cs, c.result ≠ none) ∧
      ¬ cs.Pairwise fun c d => c.key = d.key → ∀ name, c.Succeeded name → ¬ d.Invoked name := by
  refine ⟨_, notifyAndStamp, .single notifyRun 0, _, _, rfl, by decide, World.single_wf rfl,
    notify_history (.unsent { text := "connection refused" }), by decide +kernel, ?_⟩
  intro hpair
  have hsecond : (notifySecond (.unsent { text := "connection refused" })).Invoked "stamp" := by
    decide +kernel
  exact (List.pairwise_pair.mp hpair) (notify_keys _) "stamp" (by decide +kernel) hsecond

end KubeZap
