import KubeZap.Foundation.Protocol
import KubeZap.Controller.Lifecycle

/-! # Reconcile follows its protocol

`reconcile_conforms` and `startupScan_follows`: along the structure of the program,
every request it makes is a move of the protocol for every reply that the server
and the steps can give, and it returns only where the protocol returns.
-/

namespace KubeZap

open Foundation

/-- What is known of a reply without looking at the server: an accepted status is
the one that was sent, and `executeStep` ran. -/
def Credible (r : FlowRunReconciler) : (q : Req) → Reply q → Prop := fun q x =>
  match q, x with
  | .updateStatus sent, .ok answer => answer.status = sent.status.encode
  | .executeStep c, ret => ∃ tr, StepRun r c tr ret.result
  | _, _ => True

section Follows

variable {r : FlowRunReconciler} {key : NamespacedName}

/-- The program follows the protocol from `σ` and returns as the protocol does. -/
abbrev Conforms (r : FlowRunReconciler) (key : NamespacedName) (σ : Stage)
    (p : Reconciler Result) : Prop :=
  Follows (Moves r key) (Credible r) (Returns r) σ p

variable {σ : Stage}

theorem follows_send {α : Type} {moves : Protocol Stage Reply} {post : Stage → α → Prop} {q : Req}
    {f : Reply q → Reconciler α}
    (h : ∀ x, Credible r q x → ∃ σ', moves σ q x σ' ∧ Follows moves (Credible r) post σ' (f x)) :
    Follows moves (Credible r) post σ (send q >>= f) := h

theorem follows_now_move {α : Type} {post : Stage → α → Prop} {f : Time → Reconciler α}
    (h : ∀ t, Follows (Moves r key) (Credible r) post σ (f t)) :
    Follows (Moves r key) (Credible r) post σ (send .now >>= f) :=
  fun t _ => ⟨σ, .now σ t, h t⟩

theorem follows_readSince {moves : Protocol Stage Reply} (hnow : ∀ σ t, moves σ .now t σ)
    (fr : FlowRun) (now : Time) :
    Follows moves (Credible r) (fun σ' _ => σ' = σ) σ (readSince fr now) := by
  unfold readSince
  split
  · rfl
  · exact fun t _ => ⟨σ, hnow σ t, rfl⟩

variable {fr : FlowRun}

theorem finishFlowRun_follows {phase : FlowRunPhase} (h : MayFinish σ fr phase)
    (reason msg : String) :
    Follows (Moves r key) (Credible r) (fun σ' err => Returns r σ' { err := err }) σ
      (finishFlowRun fr phase reason msg) := by
  refine follows_now_move fun t => ?_
  refine Follows.bind (follows_readSince Moves.now fr t) fun σ' since hσ => ?_
  subst hσ
  refine follows_send fun x _ => ⟨_, .finish reason msg t since x h, ?_⟩
  cases x with
  | error e => exact .closed _
  | ok answer => exact follows_send fun y _ => ⟨_, .release y, .closed _⟩

theorem ended_conforms {p : Reconciler (Option ApiError)}
    (h : Follows (Moves r key) (Credible r) (fun σ' err => Returns r σ' { err := err }) σ p) :
    Conforms r key σ (ended p) :=
  Follows.bind h fun _ _ hret => hret

theorem ended_fail_conforms (h : MayFinish σ fr .failed)
    (msg : String) : Conforms r key σ (ended (failFlowRun fr msg)) :=
  ended_conforms (finishFlowRun_follows h _ _)

variable {flow : Flow} {checked : Option Time}

theorem succeedFlowRun_follows (hrun : fr.status.phase = .running) (hlive : Live r fr checked)
    (hdone : Exhausted flow fr.status.steps) :
    Follows (Moves r key) (Credible r) (fun σ' err => Returns r σ' { err := err })
      (.admitted fr flow checked) (succeedFlowRun fr) := by
  refine follows_now_move fun t => ?_
  refine Follows.bind (follows_readSince Moves.now fr t) fun σ' since hσ => ?_
  subst hσ
  refine follows_send fun x _ => ⟨_, .succeed t since x hrun hlive hdone, ?_⟩
  cases x with
  | error e => exact .closed _
  | ok answer => exact follows_send fun y _ => ⟨_, .release y, .closed _⟩

/-! ### Immediate transitions -/

variable {d : Dispatch} {step : FlowStep}

theorem inlineVerdict_ready (hmem : step ∈ d.flow.spec.steps)
    (h : inlineVerdict r d fr step ≠ .pass) : Ready d.flow fr.status.steps step := by
  unfold inlineVerdict at h
  dsimp only at h
  split at h
  · exact absurd rfl h
  · rename_i hdeps
    split at h
    · exact absurd rfl h
    · rename_i hproc
      exact ⟨hmem, by simpa using hdeps, by simpa using hproc⟩

theorem inlineVerdict_skip {msg : String} (h : inlineVerdict r d fr step = .skip msg) :
    allDepsSkipped step fr.status.steps = true ∨ step.when ≠ [] ∧
      evaluateWhen r step.when d.stepResults fr.status.steps fr.spec.triggerData d.params =
        .ok false := by
  unfold inlineVerdict at h
  dsimp only at h
  split at h
  · cases h
  · split at h
    · cases h
    · split at h
      · rename_i hskip
        exact .inl hskip
      · split at h
        · cases h
        · rename_i hwhen
          split at h
          · cases h
          · rename_i hfalse
            exact .inr ⟨by simpa using hwhen, hfalse⟩
          · cases h

/-- What the loop over the steps leaves behind: either it passed them all and nothing
happened, or the FlowRun in memory is what the protocol holds plus immediate transitions. -/
def InlinePost (r : FlowRunReconciler) (σ₀ : Stage) (fr₀ : FlowRun) (d : Dispatch)
    (steps : List FlowStep) : Stage → Except Result (FlowRun × Bool) → Prop
  | σ, .error result => Returns r σ result
  | σ, .ok (flowRun, false) => σ = σ₀ ∧ flowRun = fr₀ ∧
      ∀ step ∈ steps, inlineVerdict r d fr₀ step = .pass
  | σ, .ok (flowRun, true) => ∃ fr xs, MayInline r σ fr d ∧ flowRun = fr.setSteps xs ∧
      Inlined r d fr.spec fr.status.steps xs

theorem inlineLoop_changed {σ₀ : Stage} {fr₀ : FlowRun} {passed : List FlowStep}
    (steps : List FlowStep) (hsteps : ∀ s ∈ steps, s ∈ d.flow.spec.steps)
    (hmay : MayInline r σ fr d) {xs : List StepRunStatus}
    (hxs : Inlined r d fr.spec fr.status.steps xs) :
    Follows (Moves r key) (Credible r) (InlinePost r σ₀ fr₀ d passed) σ
      (inlineLoop r d steps (fr.setSteps xs) true) := by
  induction steps generalizing σ fr xs with
  | nil => exact ⟨fr, xs, hmay, rfl, hxs⟩
  | cons step rest ih =>
    have hrest : ∀ s ∈ rest, s ∈ d.flow.spec.steps :=
      fun s hs => hsteps s (List.mem_cons_of_mem _ hs)
    have hmem := hsteps step List.mem_cons_self
    unfold inlineLoop
    cases hv : inlineVerdict r d (fr.setSteps xs) step with
    | pass => exact ih hrest hmay hxs
    | skip msg =>
      have hready := inlineVerdict_ready hmem (by rw [hv]; simp)
      refine follows_now_move fun t => ?_
      exact ih hrest hmay (hxs.tail (.skip hready rfl rfl rfl (inlineVerdict_skip hv)))
    | fail err =>
      have hready := inlineVerdict_ready hmem (by rw [hv]; simp)
      refine follows_now_move fun t => ?_
      by_cases hcont : failureContinues d.flow.spec step = true
      · refine follows_send fun x _ => ⟨_, @Moves.inline r key σ fr d _ x hmay
          (hxs.tail (.fail hready rfl rfl rfl hcont)), ?_⟩
        cases x with
        | error e => exact .closed _
        | ok answer =>
          dsimp only
          rw [if_pos hcont]
          exact ih hrest .inlined .refl
      · refine follows_send fun x _ => ⟨_, @Moves.inlineFail r key σ fr d xs step _ x hmay hxs hready
          rfl rfl rfl, ?_⟩
        cases x with
        | error e => exact .closed _
        | ok answer =>
          dsimp only
          rw [if_neg hcont]
          exact Follows.bind (finishFlowRun_follows .failing _ _) fun _ _ h => h

theorem inlineLoop_flag (h : inlineVerdict r d fr step ≠ .pass) (rest : List FlowStep) :
    inlineLoop r d (step :: rest) fr false = inlineLoop r d (step :: rest) fr true := by
  unfold inlineLoop
  split
  · exact absurd ‹_› h
  · rfl
  · rfl

theorem inlineLoop_follows (steps : List FlowStep) (hsteps : ∀ s ∈ steps, s ∈ d.flow.spec.steps)
    (hd : Dispatching r flow fr checked d) :
    Follows (Moves r key) (Credible r) (InlinePost r (.admitted fr flow checked) fr d steps)
      (.admitted fr flow checked) (inlineLoop r d steps fr false) := by
  induction steps with
  | nil => exact ⟨rfl, rfl, by simp⟩
  | cons step rest ih =>
    by_cases hv : inlineVerdict r d fr step = .pass
    · unfold inlineLoop
      rw [hv]
      refine (ih fun s hs => hsteps s (List.mem_cons_of_mem _ hs)).weaken ?_
      intro σ x hpost
      cases x with
      | error result => exact hpost
      | ok pair =>
        obtain ⟨flowRun, skippedAny⟩ := pair
        cases skippedAny with
        | true => exact hpost
        | false =>
          obtain ⟨hσ, hfr, hpassed⟩ := hpost
          exact ⟨hσ, hfr, List.forall_mem_cons.mpr ⟨hv, hpassed⟩⟩
    · have hready := inlineVerdict_ready (hsteps step List.mem_cons_self) hv
      rw [hd.data.flow_eq] at hready
      rw [inlineLoop_flag hv]
      exact inlineLoop_changed (step :: rest) hsteps (.admitted hd ⟨step, hready⟩) .refl

/-! ### The wave -/

theorem persistAndReturn_conforms {result : Result}
    (h : ∀ x, Moves r key σ (.updateStatus fr) x (.after x fun _ => .closed result)) :
    Conforms r key σ (persistAndReturn fr result) := by
  refine follows_send fun x _ => ⟨_, h x, ?_⟩
  cases x with
  | error | ok => exact .closed _

theorem persistAndFail_conforms {msg : String} (h : ∀ x, Moves r key σ (.updateStatus fr) x
      (.after x fun o => .failing o)) :
    Conforms r key σ (persistAndFail fr msg) := by
  refine follows_send fun x _ => ⟨_, h x, ?_⟩
  cases x with
  | error e => exact .closed _
  | ok answer => exact ended_fail_conforms .failing msg

theorem executeWaitStep_follows (lib : GoLib) (fr : FlowRun) (step : FlowStep)
    (ss : StepRunStatus) :
    Follows (Moves r key) (Credible r) (fun σ' x => σ' = σ ∧ ∀ s d, x = .ok (s, d) →
      s.name = ss.name ∧ s.results = ss.results ∧ (0 < d → s.phase = .waiting)) σ
      (executeWaitStep lib fr step ss) := by
  unfold executeWaitStep
  split
  · exact ⟨rfl, fun _ _ h => by cases h⟩
  · split
    · exact ⟨rfl, fun _ _ h => by cases h⟩
    · split
      · refine follows_now_move fun now => ?_
        split
        · refine follows_now_move fun later => ⟨rfl, ?_⟩
          rintro s d ⟨⟩
          exact ⟨rfl, rfl, fun _ => rfl⟩
        · refine ⟨rfl, ?_⟩
          rintro s d ⟨⟩
          exact ⟨rfl, rfl, fun h => absurd h (by decide)⟩
      · refine follows_now_move fun now => ⟨rfl, ?_⟩
        rintro s d ⟨⟩
        exact ⟨rfl, rfl, fun _ => rfl⟩

theorem runWaitStep_conforms (hd : Dispatching r flow fr checked d)
    (hmem : step ∈ collectWave flow fr.status.steps) (hwait : step.action.type = .wait) :
    Conforms r key (.admitted fr flow checked) (runWaitStep r d fr step) := by
  have hflow := hd.data.flow_eq
  refine follows_now_move fun now => ?_
  refine Follows.bind (executeWaitStep_follows r.lib fr step _) fun σ x hx => ?_
  obtain ⟨rfl, hx⟩ := hx
  cases x with
  | error err =>
    refine follows_now_move fun t => ?_
    change Follows _ _ _ _ (ite _ _ _)
    rw [hflow]
    split
    · rename_i hcont
      exact persistAndReturn_conforms fun x =>
        .wait x _ hd ⟨hmem, hwait, rfl, rfl, .inr (.inr rfl)⟩ fun _ => hcont
    · exact persistAndFail_conforms fun x =>
        .waitFail x hd ⟨hmem, hwait, rfl, rfl, .inr (.inr rfl)⟩ rfl
  | ok pair =>
    obtain ⟨s, left⟩ := pair
    obtain ⟨hname, hres, hphase⟩ := hx s left rfl
    change Follows _ _ _ _ (ite _ _ _)
    split
    · rename_i hpos
      have hp := hphase hpos
      exact persistAndReturn_conforms fun x =>
        .wait x _ hd ⟨hmem, hwait, hname, hres, .inl hp⟩ fun h => by rw [hp] at h; cases h
    · refine follows_now_move fun t => ?_
      exact persistAndReturn_conforms fun x =>
        .wait x _ hd ⟨hmem, hwait, hname, hres, .inr (.inl rfl)⟩ fun h => by cases h

theorem stepOk_of_credible {c : StepCall} {ret : StepReturn} (hc : c.step = step)
    (h : Credible r (.executeStep c) ret) : StepOk step ret := by
  obtain ⟨tr, hrun⟩ := h
  subst hc
  exact executeStep_returns hrun

theorem executeWave_follows {call : FlowStep → StepCall} (hcall : ∀ s, (call s).step = s)
    (fr : FlowRun) (flow : Flow) (outs : List (FlowStep × StepReturn)) (rest : List FlowStep) :
    Follows (Moves r key) (Credible r)
      (fun σ more => σ = .executing fr flow (outs ++ more) []) (.executing fr flow outs rest)
      (executeWave call rest) := by
  induction rest generalizing outs with
  | nil =>
    change Stage.executing fr flow outs [] = .executing fr flow (outs ++ []) []
    rw [List.append_nil]
  | cons step rest ih =>
    refine follows_send fun ret hret => ?_
    refine ⟨_, .executeNext ret (hcall step) (stepOk_of_credible (hcall step) hret), ?_⟩
    refine Follows.bind (ih _) fun σ more hσ => ?_
    change σ = .executing fr flow (outs ++ (step, ret) :: more) []
    rw [hσ, List.append_assoc]
    rfl

theorem runWave_conforms {rest : List FlowStep} (hd : Dispatching r flow fr checked d)
    (hpassed : ∀ s ∈ flow.spec.steps, inlineVerdict r d fr s = .pass)
    (hwave : collectWave flow fr.status.steps = step :: rest)
    (hwait : ∀ s ∈ step :: rest, s.action.type ≠ .wait) (execCtx : Ctx) :
    Conforms r key (.admitted fr flow checked) (runWave r d fr execCtx (step :: rest)) := by
  have hflow := hd.data.flow_eq
  unfold runWave
  dsimp only
  rw [hflow]
  have hexec : ∀ call : FlowStep → StepCall, (∀ s, (call s).step = s) →
      Follows (Moves r key) (Credible r) (fun σ outs => σ = .executing fr flow outs [])
        (.admitted fr flow checked) (executeWave call (step :: rest)) := by
    intro call hcall
    refine follows_send fun ret hret => ?_
    refine ⟨_, .execute ret hd hpassed hwave hwait (hcall step)
      (stepOk_of_credible (hcall step) hret), ?_⟩
    refine Follows.bind (executeWave_follows hcall fr flow [(step, ret)] rest) fun σ more hσ => ?_
    exact hσ
  refine Follows.bind (hexec _ fun _ => rfl) fun σ outs hσ => ?_
  subst hσ
  rw [transportRequeue_outs]
  by_cases htr : (outs.any fun o => o.2.transport) = true
  · rw [if_pos htr, if_pos (by decide)]
    exact .unreachable (by simpa using htr)
  · have hnone : ∀ o ∈ outs, o.2.transport = false := by simpa using htr
    rw [if_neg htr, if_neg (by decide)]
    split
    · exact persistAndFail_conforms fun x => .batchFail x hnone
    · rename_i hmsg
      exact persistAndReturn_conforms fun x =>
        .batch x hnone (fatalMsg_outs (not_not.mp hmsg))

/-! ### Completion -/

theorem complete_conforms (hrun : fr.status.phase = .running) (hlive : Live r fr checked)
    (hdone : allTerminal flow fr.status.steps = true ∨
      collectWave flow fr.status.steps = [] ∧ anyRunning flow fr.status.steps = false) :
    Conforms r key (.admitted fr flow checked) (complete r flow fr) := by
  unfold complete
  split
  · exact ended_fail_conforms (.admitted hrun) _
  · rename_i hnone
    exact ended_conforms (succeedFlowRun_follows hrun hlive ⟨hdone, hnone⟩)

theorem afterInline_conforms (hd : Dispatching r flow fr checked d)
    (hpassed : ∀ s ∈ flow.spec.steps, inlineVerdict r d fr s = .pass) (execCtx : Ctx) :
    Conforms r key (.admitted fr flow checked)
      (afterInline r key d execCtx (anyRunning flow fr.status.steps) fr false) := by
  have hflow := hd.data.flow_eq
  unfold afterInline
  rw [if_neg (by decide), hflow]
  split
  · rename_i hempty
    split
    · rename_i hactive
      exact .pending hd hempty hactive
    · rename_i hidle
      exact complete_conforms hd.running hd.live (.inr ⟨hempty, by simpa using hidle⟩)
  · rename_i hne
    split
    · rename_i step hfind
      exact runWaitStep_conforms hd (List.mem_of_find?_eq_some hfind)
        (by simpa using List.find?_some hfind)
    · rename_i hnowait
      cases hw : collectWave flow fr.status.steps with
      | nil => exact absurd hw hne
      | cons step rest =>
        rw [hw] at hnowait
        refine runWave_conforms hd hpassed hw ?_ execCtx
        intro s hs
        simpa using List.find?_eq_none.mp hnowait s hs

theorem afterInline_changed_conforms {xs : List StepRunStatus} (hmay : MayInline r σ fr d)
    (hxs : Inlined r d fr.spec fr.status.steps xs) (execCtx : Ctx) (active : Bool) :
    Conforms r key σ (afterInline r key d execCtx active (fr.setSteps xs) true) := by
  unfold afterInline
  rw [if_pos rfl]
  refine follows_send fun x _ => ⟨_, .inline x hmay hxs, ?_⟩
  cases x with
  | error e => exact .closed _
  | ok answer =>
    refine follows_send fun y _ => ?_
    cases y with
    | ok o => exact ⟨_, .reread _ _, .closed _⟩
    | error e => cases e <;> exact ⟨_, .reread _ _, .closed _⟩

theorem dispatch_conforms (hrun : fr.status.phase = .running) (hlive : Live r fr checked)
    (hdata : DispatchOf r flow fr d) (execCtx : Ctx) :
    Conforms r key (.admitted fr flow checked) (dispatch r key d execCtx fr) := by
  have hflow := hdata.flow_eq
  unfold dispatch
  dsimp only
  rw [hflow]
  split
  · rename_i hall
    exact complete_conforms hrun hlive (.inl hall)
  · rename_i hall
    have hd : Dispatching r flow fr checked d := ⟨hrun, hlive, hdata, by simpa using hall⟩
    have hloop := @inlineLoop_follows r key fr flow checked d flow.spec.steps
      (by rw [hflow]; exact fun _ h => h) hd
    refine Follows.bind hloop fun σ x hx => ?_
    cases x with
    | error result => exact hx
    | ok pair =>
      obtain ⟨flowRun, skippedAny⟩ := pair
      cases skippedAny with
      | false =>
        obtain ⟨rfl, rfl, hpassed⟩ := hx
        exact afterInline_conforms hd hpassed execCtx
      | true =>
        obtain ⟨fr', xs, hmay, rfl, hxs⟩ := hx
        exact afterInline_changed_conforms hmay hxs execCtx _

/-! ### Start -/

/-- What `startFlowRun` leaves: a Running FlowRun, or an error. -/
def StartPost (r : FlowRunReconciler) (flow : Flow) : Stage → Except ApiError FlowRun → Prop
  | σ, .error e => Returns r σ { err := some e }
  | σ, .ok fr => σ = .admitted fr flow none ∧ fr.status.phase = .running

theorem ensureFinalizer_follows (h : fr.status.phase ≠ .running) :
    Follows (Moves r key) (Credible r) (fun σ x => match x with
      | .error e => Returns r σ { err := some e }
      | .ok fr' => MayStart σ fr' flow) (.admitted fr flow none) (startFlowRun.ensureFinalizer fr) := by
  unfold startFlowRun.ensureFinalizer
  split
  · exact .admitted h
  · refine follows_send fun x _ => ⟨_, .addFinalizer x h, ?_⟩
    cases x with
    | error e => exact .closed _
    | ok answer => exact .entering

theorem startFlowRun_follows (h : fr.status.phase.terminal = false) :
    Follows (Moves r key) (Credible r) (StartPost r flow) (.admitted fr flow none)
      (startFlowRun fr) := by
  unfold startFlowRun
  split
  · rename_i hphase
    have hne : fr.status.phase ≠ .running := by
      rcases hphase with hp | hp <;> rw [hp] <;> decide
    refine Follows.bind (ensureFinalizer_follows hne) fun σ x hx => ?_
    cases x with
    | error e => exact hx
    | ok fr' =>
      refine follows_now_move fun t => ?_
      refine follows_send fun y hy => ⟨_, .start t y hx, ?_⟩
      cases y with
      | error e => exact .closed _
      | ok answer =>
        have hstatus : answer.status = (fr'.start t).status.encode := hy
        refine ⟨rfl, ?_⟩
        rw [hstatus]
        rfl
  · rename_i hphase
    refine ⟨rfl, ?_⟩
    cases hp : fr.status.phase with
    | running => rfl
    | empty => exact absurd (.inl hp) hphase
    | pending => exact absurd (.inr hp) hphase
    | succeeded | failed | cancelled => rw [hp] at h; cases h

/-! ### Reconcile -/

theorem flowTimeoutCtx_follows (flow : Flow) :
    Follows (Moves r key) (Credible r) (fun σ' _ => σ' = σ) σ (flowTimeoutCtx flow) := by
  unfold flowTimeoutCtx
  split
  · rfl
  · split
    · exact follows_now_move fun _ => rfl
    · rfl

theorem exceededTimeout_follows (fr : FlowRun) (flow : Flow) :
    Follows (Moves r key) (Credible r) (fun σ x => match x with
      | some _ => ∃ checked, σ = .admitted fr flow checked
      | none => ∃ checked, σ = .admitted fr flow checked ∧ Live r fr checked)
      (.admitted fr flow none) (exceededTimeout r fr) := by
  unfold exceededTimeout
  split
  · rename_i hstart
    exact ⟨none, rfl, fun _ h => absurd hstart h⟩
  · rename_i start hstart
    split
    · refine follows_send fun t _ => ?_
      by_cases hlate : t - start > r.executionTimeout
      · refine ⟨_, .now _ t, ?_⟩
        rw [if_pos hlate]
        exact follows_now_move fun _ => ⟨none, rfl⟩
      · have hwithin : WithinTimeout r fr t := by
          intro s hs
          rw [hstart] at hs
          cases hs
          exact Int.not_lt.mp hlate
        refine ⟨_, .check hwithin, ?_⟩
        rw [if_neg hlate]
        exact ⟨some t, rfl, fun _ _ => ⟨t, rfl, hwithin⟩⟩
    · rename_i hoff
      exact ⟨none, rfl, fun h => absurd h hoff⟩

theorem runFlow_conforms (hrun : fr.status.phase = .running) :
    Conforms r key (.admitted fr flow none) (runFlow r key flow fr) := by
  unfold runFlow
  refine Follows.bind (flowTimeoutCtx_follows flow) fun σ execCtx hσ => ?_
  subst hσ
  refine Follows.bind (exceededTimeout_follows fr flow) fun σ x hx => ?_
  cases x with
  | some elapsed =>
    obtain ⟨checked, rfl⟩ := hx
    exact ended_fail_conforms (.admitted hrun) _
  | none =>
    obtain ⟨checked, rfl, hlive⟩ := hx
    dsimp only
    split
    · exact ended_fail_conforms (.admitted hrun) _
    · rename_i params hparams
      have hdata : DispatchOf r flow fr ⟨flow, rebuildStepResults fr.status.steps, params⟩ :=
        ⟨rfl, rfl, hparams⟩
      exact dispatch_conforms hrun hlive hdata execCtx

section Collecting

variable {fr : FlowRun} (hterm : fr.status.phase.terminal = true)

include hterm

theorem readGCPolicy_follows :
    Follows (Moves r key) (Credible r) (fun σ _ => σ = .loaded fr) (.loaded fr)
      (readGCPolicy fr) := by
  unfold readGCPolicy
  split
  · rfl
  · split
    · rfl
    · refine follows_send fun x _ => ⟨_, .trigger x hterm, ?_⟩
      cases x <;> rfl

theorem deleteIgnoringNotFound_follows (o : FlowRun) :
    Follows (Moves r key) (Credible r) (fun σ _ => σ = .loaded fr) (.loaded fr)
      (deleteIgnoringNotFound o) := by
  refine follows_send fun x _ => ⟨_, .delete x hterm, ?_⟩
  cases x with
  | ok _ => rfl
  | error e => cases e <;> rfl

theorem deleteAll_follows (items : List FlowRun) :
    Follows (Moves r key) (Credible r) (fun σ _ => σ = .loaded fr) (.loaded fr)
      (deleteAll items) := by
  induction items with
  | nil => rfl
  | cons o rest ih =>
    refine Follows.bind (deleteIgnoringNotFound_follows hterm o) fun σ x hσ => ?_
    subst hσ
    cases x with
    | error e => rfl
    | ok _ => exact ih

theorem enforceMax_follows (triggerName ns : String) (phase : FlowRunPhase) (max : Option Int) :
    Follows (Moves r key) (Credible r) (fun σ _ => σ = .loaded fr) (.loaded fr)
      (enforceMax triggerName ns phase max) := by
  unfold enforceMax
  split
  · rfl
  · refine follows_send fun x _ => ⟨_, .list x hterm, ?_⟩
    cases x with
    | error e => rfl
    | ok items =>
      dsimp only
      split
      · rfl
      · generalize List.take _ _ = oldest
        exact deleteAll_follows hterm oldest

theorem enforceFlowRunGCPolicy_follows (triggerName ns : String) (policy : FlowRunGCPolicy) :
    Follows (Moves r key) (Credible r) (fun σ _ => σ = .loaded fr) (.loaded fr)
      (enforceFlowRunGCPolicy triggerName ns policy) := by
  refine Follows.bind (enforceMax_follows hterm _ _ _ _) fun σ x hσ => ?_
  subst hσ
  cases x with
  | error e => rfl
  | ok _ => exact enforceMax_follows hterm _ _ _ _

theorem expire_follows (policy : Option FlowRunGCPolicy) :
    Follows (Moves r key) (Credible r) (fun σ _ => σ = .loaded fr) (.loaded fr)
      (expire r fr policy) := by
  unfold expire
  dsimp only
  split
  · rfl
  · split
    · rfl
    · refine follows_now_move fun t => ?_
      split
      · rfl
      · refine Follows.bind (deleteIgnoringNotFound_follows hterm fr) fun σ x hσ => ?_
        subst hσ
        cases x <;> rfl

theorem reconcileGC_follows :
    Follows (Moves r key) (Credible r) (fun σ _ => σ = .loaded fr) (.loaded fr)
      (reconcileGC r fr) := by
  have hexpire : Follows (Moves r key) (Credible r) (fun σ _ => σ = .loaded fr) (.loaded fr)
      (readGCPolicy fr >>= expire r fr) := by
    refine Follows.bind (readGCPolicy_follows hterm) fun σ policy hσ => ?_
    subst hσ
    exact expire_follows hterm policy
  unfold reconcileGC
  split
  · rfl
  · refine Follows.bind (readGCPolicy_follows hterm) fun σ policy hσ => ?_
    subst hσ
    have henforce : Follows (Moves r key) (Credible r) (fun σ _ => σ = .loaded fr) (.loaded fr)
        (enforceTriggerPolicy fr policy) := by
      cases policy with
      | none => rfl
      | some policy => exact enforceFlowRunGCPolicy_follows hterm _ _ policy
    refine Follows.bind henforce fun σ x hσ => ?_
    subst hσ
    cases x with
    | error e => rfl
    | ok _ => exact hexpire

end Collecting

theorem reconcileFlowRun_conforms (fr : FlowRun) :
    Conforms r key (.loaded fr) (reconcileFlowRun r key fr) := by
  unfold reconcileFlowRun
  split
  · rename_i h
    exact ended_conforms (finishFlowRun_follows (.cancel h.2 (by simp [stopRequested, h.1])) _ _)
  · rename_i hdel
    split
    · rename_i h
      exact ended_conforms (finishFlowRun_follows (.cancel h.1 (by simp [stopRequested, h.2])) _ _)
    · rename_i hcancel
      split
      · rename_i hterm
        refine Follows.bind (reconcileGC_follows hterm) fun σ x hσ => ?_
        subst hσ
        cases x with
        | error e => exact .collected _ hterm
        | ok requeue =>
          change Follows _ _ _ _ (ite _ _ _)
          split <;> exact .collected _ hterm
      · rename_i hterm
        have hcont : Continuing fr := by
          refine ⟨by simpa using hterm, fun hrun => ?_⟩
          simp only [stopRequested, Bool.or_eq_false_iff]
          exact ⟨by simpa [hrun] using hdel, by simpa [hrun] using hcancel⟩
        refine follows_send fun x _ => ?_
        cases x with
        | error e =>
          cases e with
          | notFound msg => exact ⟨_, .flowMissing msg hcont, ended_fail_conforms .orphaned _⟩
          | other msg => exact ⟨_, .flowFails _, .closed _⟩
        | ok flow =>
          refine ⟨_, .flow flow hcont, ?_⟩
          refine Follows.bind (startFlowRun_follows hcont.phase) fun σ y hy => ?_
          cases y with
          | error e => exact hy
          | ok fr' =>
            obtain ⟨rfl, hrun⟩ := hy
            exact runFlow_conforms hrun

theorem reconcile_conforms (r : FlowRunReconciler) (key : NamespacedName) :
    Conforms r key .idle (reconcile r key) := by
  refine follows_send fun x _ => ?_
  cases x with
  | error e =>
    cases e with
    | notFound | other => exact ⟨_, .readFails _ _, .closed _⟩
  | ok fr => exact ⟨_, .read fr, reconcileFlowRun_conforms fr⟩

end Follows

/-! ## The startup scan -/

theorem scanFlowRun_follows {r : FlowRunReconciler} {items : List FlowRun} {fr : FlowRun}
    (hmem : fr ∈ items) :
    Follows ScanMoves (Credible r) (fun σ _ => σ = .scanning items) (.scanning items)
      (scanFlowRun r fr) := by
  unfold scanFlowRun
  split
  · rfl
  · rename_i hrun
    split
    · rfl
    · refine follows_send fun now _ => ⟨_, .now _ now, ?_⟩
      split
      · rfl
      · refine follows_send fun later _ => ⟨_, .now _ later, ?_⟩
        have hfail : ∀ msg, Follows ScanMoves (Credible r) (fun σ _ => σ = .scanning items)
            (.scanning items) (failFlowRun fr msg) := by
          intro msg
          refine follows_send fun t _ => ⟨_, .now _ t, ?_⟩
          refine Follows.bind (follows_readSince ScanMoves.now fr t) fun σ since hσ => ?_
          subst hσ
          refine follows_send fun x _ => ⟨_, .finish _ msg t since x hmem (not_not.mp hrun), ?_⟩
          cases x with
          | error e => rfl
          | ok answer => exact follows_send fun y _ => ⟨_, .release y, rfl⟩
        exact Follows.bind (hfail _) fun _ _ h => h

theorem startupScan_follows (r : FlowRunReconciler) :
    Follows ScanMoves (Credible r) (fun _ _ => True) .idle (startupScan r) := by
  have hscan : ∀ items rest : List FlowRun, (∀ fr ∈ rest, fr ∈ items) →
      Follows ScanMoves (Credible r) (fun _ _ => True) (.scanning items)
        (scanFlowRuns r rest) := by
    intro items rest hrest
    induction rest with
    | nil => trivial
    | cons fr rest ih =>
      refine Follows.bind (scanFlowRun_follows (hrest fr List.mem_cons_self)) fun σ _ hσ => ?_
      subst hσ
      exact ih fun o ho => hrest o (List.mem_cons_of_mem _ ho)
  unfold startupScan
  split
  · refine follows_send fun x _ => ⟨_, .list x, ?_⟩
    cases x with
    | error e => trivial
    | ok items => exact hscan items items fun _ h => h
  · trivial

end KubeZap
