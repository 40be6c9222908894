import KubeZap.Controller.Reconcile

/-! # The outcome of a wave

What the batch after a wave makes of the returns of its steps: the requeue for an
unreachable executor, the message of a fatal failure, and the statuses it writes.
-/

namespace KubeZap

/-- What `executeStep` can have returned. -/
def StepOk (step : FlowStep) (ret : StepReturn) : Prop :=
  (∃ err, ret.result = .error (transportErr err)) ∨ ∃ s, ret.result = .ok s ∧ FinalStatus step s

def StepReturn.transport (ret : StepReturn) : Bool :=
  match ret.result with
  | .error err => err.isTransport
  | .ok _ => false

def StepReturn.fatal (flow : Flow) (step : FlowStep) (ret : StepReturn) : Bool :=
  match ret.result with
  | .error _ => false
  | .ok s => s.phase == .failed && !failureContinues flow.spec step

def waveStatuses (lib : GoLib) (flow : Flow) (statuses : List StepRunStatus)
    (outs : List (FlowStep × StepReturn)) : List StepRunStatus :=
  batchStatuses statuses (outs.map fun o => stepResult lib flow o.1 o.2)

theorem stepResult_requeueAfter (lib : GoLib) (flow : Flow) (step : FlowStep) (ret : StepReturn) :
    (stepResult lib flow step ret).requeueAfter =
      if ret.transport then executorTransportBackoff else 0 := by
  unfold stepResult StepReturn.transport
  cases ret.result with
  | error | ok =>
    dsimp only
    split <;> rfl

theorem stepResult_failFatal (lib : GoLib) (flow : Flow) (step : FlowStep) (ret : StepReturn) :
    (stepResult lib flow step ret).failFatal = ret.fatal flow step := by
  unfold stepResult StepReturn.fatal
  cases ret.result with
  | error err =>
    dsimp only
    split <;> rfl
  | ok s =>
    dsimp only
    split
    · rename_i h
      simp [h.1, h.2]
    · rename_i h
      cases hc : failureContinues flow.spec step <;> simp_all

theorem stepResult_failMsg {lib : GoLib} {flow : Flow} {step : FlowStep} {ret : StepReturn}
    (h : ret.fatal flow step = true) : (stepResult lib flow step ret).failMsg ≠ "" := by
  unfold StepReturn.fatal at h
  unfold stepResult
  cases hres : ret.result with
  | error err =>
    rw [hres] at h
    cases h
  | ok s =>
    rw [hres] at h
    have hcond : s.phase = .failed ∧ failureContinues flow.spec step = false := by simpa using h
    dsimp only
    rw [if_pos hcond]
    intro hmsg
    have := congrArg String.toList hmsg
    simp at this

theorem transportRequeue_outs (lib : GoLib) (flow : Flow) (outs : List (FlowStep × StepReturn)) :
    transportRequeue (outs.map fun o => stepResult lib flow o.1 o.2) =
      if outs.any fun o => o.2.transport then executorTransportBackoff else 0 := by
  have hfold : ∀ (d : Duration), d = 0 ∨ d = executorTransportBackoff →
      (outs.map fun o => stepResult lib flow o.1 o.2).foldl
        (fun d res => if res.requeueAfter > d then res.requeueAfter else d) d =
      if outs.any fun o => o.2.transport then executorTransportBackoff else d := by
    induction outs with
    | nil => intro d _; rfl
    | cons o rest ih =>
      intro d hd
      rw [List.map_cons, List.foldl_cons, stepResult_requeueAfter, List.any_cons]
      cases ho : o.2.transport with
      | true =>
        have hmax : (if executorTransportBackoff > d then executorTransportBackoff else d) =
            executorTransportBackoff := by
          rcases hd with rfl | rfl <;> decide
        simp only [if_true, hmax, Bool.true_or]
        rw [ih _ (.inr rfl)]
        split <;> rfl
      | false =>
        have hmax : (if (0 : Duration) > d then 0 else d) = d := by
          rcases hd with rfl | rfl <;> decide
        simp only [Bool.false_eq_true, if_false, hmax, Bool.false_or]
        exact ih d hd
  exact hfold 0 (.inl rfl)

theorem fatalMsg_outs {lib : GoLib} {flow : Flow} {outs : List (FlowStep × StepReturn)}
    (h : fatalMsg (outs.map fun o => stepResult lib flow o.1 o.2) = "") :
    ∀ o ∈ outs, o.2.fatal flow o.1 = false := by
  have hfold : ∀ (outs : List (FlowStep × StepReturn)) (msg : String), (outs.map fun o => stepResult lib flow o.1 o.2).foldl
        (fun msg res => if res.failFatal ∧ msg = "" then res.failMsg else msg) msg = "" →
      msg = "" ∧ ∀ o ∈ outs, o.2.fatal flow o.1 = false := by
    intro outs
    induction outs with
    | nil => intro msg hmsg; exact ⟨hmsg, by simp⟩
    | cons o rest ih =>
      intro msg hmsg
      rw [List.map_cons, List.foldl_cons, stepResult_failFatal] at hmsg
      obtain ⟨hnow, hrest⟩ := ih _ hmsg
      cases ho : o.2.fatal flow o.1 with
      | true =>
        by_cases hempty : msg = ""
        · rw [if_pos ⟨ho, hempty⟩] at hnow
          exact absurd hnow (stepResult_failMsg ho)
        · rw [if_neg fun hand => hempty hand.2] at hnow
          exact absurd hnow hempty
      | false =>
        rw [if_neg fun hand => by rw [ho] at hand; cases hand.1] at hnow
        exact ⟨hnow, List.forall_mem_cons.mpr ⟨ho, hrest⟩⟩
  exact (hfold outs "" h).2

end KubeZap
