import KubeZap.Controller.AtMostOnce

/-! # What becomes of a step whose deadline passes

A request to the executor that is still unanswered when the context of the step
ends makes `Client.Do` return an error. `callExecutor` makes every such error a
transport error, whatever it wraps, so the wave is requeued and nothing of it is
written.
-/

namespace KubeZap

open Foundation
open Foundation.Versioned (WriteError)

/-- A POST to the executor that ended with the deadline of its context. -/
def deadlinePassed : Event IoReply → Bool
  | ⟨.execute _ _ _, .unsent err⟩ => err.ctxErr == some .deadlineExceeded
  | _ => false

theorem executeStep_deadlinePassed {r : FlowRunReconciler} {c : StepCall}
    {io : List (Event IoReply)} {x : Except Err StepRunStatus} (h : StepRun r c io x)
    (hpassed : ∃ e ∈ io, deadlinePassed e = true) : ∃ err, x = .error (transportErr err) := by
  obtain ⟨σ, hjoint, hpost⟩ := h.joint (fun _ _ _ _ _ => trivial) (executeStep_follows r c)
  -- the state remembers the POST from then on
  have hstate := hjoint.history
    (fun io _ σ => (∃ e ∈ io, deadlinePassed e = true) → ∃ err, σ = some err) (by simp) (by
      intro io _ σ q x _ σ' hinv _ hmove ⟨e, he, hpass⟩
      rcases List.mem_append.mp he with hold | hnew
      · obtain ⟨err, rfl⟩ := hinv ⟨e, hold, hpass⟩
        unfold rpcMoves at hmove
        split at hmove
        · exact ⟨err, hmove⟩
        · cases hmove.1
        · cases hmove.1
      · rw [List.mem_singleton.mp hnew] at hpass
        unfold deadlinePassed at hpass
        split at hpass
        · rename_i err heq
          cases heq
          exact ⟨err, hmove.2⟩
        · cases hpass)
  obtain ⟨err, rfl⟩ := hstate hpassed
  exact ⟨err, hpost x rfl⟩

def statusWrite : Event Reply → Option FlowRun
  | ⟨.updateStatus sent, _⟩ => some sent
  | _ => none

def statusWrites (tr : List (Event Reply)) : List FlowRun := tr.filterMap statusWrite

theorem statusWrites_append (tr : List (Event Reply)) (e : Event Reply) :
    statusWrites (tr ++ [e]) = statusWrites tr ++ (statusWrite e).toList := by
  unfold statusWrites
  rw [List.filterMap_append]
  cases h : statusWrite e <;> simp [h]

/-- Every write of `written` set the FlowRun `Running`, with the entries of `fr`. -/
def StartedBy (written : List FlowRun) (fr : FlowRun) : Prop :=
  ∀ sent ∈ written, fr.status.phase = .running ∧
    fr.status.steps = sent.status.steps.map StepRunStatus.encode

theorem StartedBy.eq_nil {written : List FlowRun} {fr : FlowRun} (h : StartedBy written fr)
    (hphase : fr.status.phase ≠ .running) : written = [] :=
  List.eq_nil_iff_forall_not_mem.mpr fun sent hsent => hphase (h sent hsent).1

/-- What a call has written by the time it is in its wave: at most the start of the
FlowRun, with the entries the wave was collected from. -/
def Unrecorded (written : List FlowRun) : Stage → Prop
  | .idle | .loaded _ | .orphaned _ | .entering _ _ => written = []
  | .admitted fr _ _ => StartedBy written fr
  | .executing fr flow outs rest =>
    outs.map Prod.fst ++ rest = collectWave flow fr.status.steps ∧ StartedBy written fr
  | .inlined _ _ | .failing _ | .releasing _ | .closed _ | .scanning _ | .scanReleasing _ _ => True

section Call

variable {r : FlowRunReconciler} {key : NamespacedName} {written : List FlowRun}

theorem startedBy_start {fr answer : FlowRun} {t : Time}
    (hanswer : answer.status = (fr.start t).status.encode) :
    StartedBy [fr.start t] answer := by
  intro sent hsent
  rw [List.mem_singleton.mp hsent]
  rw [hanswer]
  exact ⟨rfl, rfl⟩

theorem Unrecorded.status {σ σ' : Stage} {sent : FlowRun} {x : Except WriteError FlowRun}
    (hcred : Credible r (.updateStatus sent) x) (h : Unrecorded written σ)
    (hmove : Moves r key σ (.updateStatus sent) x σ') : Unrecorded (written ++ [sent]) σ' := by
  cases hmove with
  | @start σ fr flow t x hmay =>
    have hnil : written = [] := by
      cases hmay with
      | admitted hphase => exact StartedBy.eq_nil h hphase
      | entering => exact h
    rw [hnil]
    apply Stage.after_of fun _ => trivial
    rintro answer rfl
    exact startedBy_start hcred
  | inline | inlineFail | wait | waitFail | batch | batchFail | finish | succeed =>
    exact Stage.after_of (fun _ => trivial) fun _ _ => trivial

theorem Unrecorded.other {σ σ' : Stage} {q : Req} {x : Reply q} (h : Unrecorded written σ)
    (hmove : Moves r key σ q x σ') (hq : statusWrite ⟨q, x⟩ = none) : Unrecorded written σ' := by
  cases hmove with
  | now | check | read | trigger | list | delete | flowMissing => exact h
  | readFails | reread | flowFails | release => trivial
  | flow flow _ =>
    have hnil : written = [] := h
    simp [Unrecorded, StartedBy, hnil]
  | addFinalizer y hphase =>
    exact Stage.after_of (fun _ => trivial) fun _ _ => StartedBy.eq_nil h hphase
  | execute ret _ _ hwave _ _ _ => exact ⟨hwave.symm, h⟩
  | executeNext ret _ _ => exact ⟨by simpa using h.1, h.2⟩
  | start | inline | inlineFail | wait | waitFail | batch | batchFail | finish | succeed => cases hq

theorem Unrecorded.step {σ σ' : Stage} {q : Req} {x : Reply q} (hcred : Credible r q x)
    (h : Unrecorded written σ) (hmove : Moves r key σ q x σ') :
    Unrecorded (written ++ (statusWrite ⟨q, x⟩).toList) σ' := by
  cases q with
  | updateStatus sent => exact h.status hcred hmove
  | _ =>
    have hother := h.other hmove rfl
    simpa [statusWrite] using hother

theorem Unrecorded.not_terminal {fr sent : FlowRun} {flow : Flow}
    {outs : List (FlowStep × StepReturn)} {o : FlowStep × StepReturn} {s : StepRunStatus}
    (h : Unrecorded written (.executing fr flow outs [])) (ho : o ∈ outs) (hsent : sent ∈ written)
    (hs : findStepStatus sent.status.steps o.1.name = some s) : s.phase.terminal = false := by
  obtain ⟨hwave, hstarted⟩ := h
  have hmem : o.1 ∈ collectWave flow fr.status.steps := by
    rw [← hwave, List.append_nil]
    exact List.mem_map_of_mem ho
  have hfind : findStepStatus fr.status.steps o.1.name = some s.encode := by
    rw [(hstarted sent hsent).2, findStepStatus_encode, hs]
    rfl
  have hopen : s.encode.phase.terminal = false := not_terminal_of_mem_collectWave hmem hfind
  exact hopen

end Call

/-- A call that executes a step while the executor does not answer within the step's
deadline never records the step as failed: it asks to be run again. -/
theorem unanswered_step_requeues {r : FlowRunReconciler} {P : Policy} {key : NamespacedName}
    {w w' : World} {tr : List (Event Reply)} {result : Result} {c : StepCall} {ret : StepReturn}
    {io : List (Event IoReply)} (hrun : Exec (Server r P) w (reconcile r key) tr w' (some result))
    (hcall : (c, ret) ∈ stepCalls tr) (hstep : StepRun r c io ret.result)
    (hpassed : ∃ e ∈ io, deadlinePassed e = true) :
    result = { requeueAfter := executorTransportBackoff } ∧
      ∀ sent ∈ statusWrites tr, ∀ s, findStepStatus sent.status.steps c.step.name = some s →
        s.phase ≠ .failed := by
  obtain ⟨σ, hjoint, hret⟩ := hrun.joint (server_credible r P) (reconcile_conforms r key)
  have hinv := hjoint.history
    (fun tr _ σ => Waved (executions tr) σ ∧ Unrecorded (statusWrites tr) σ) ⟨rfl, rfl⟩ (by
      intro tr w σ q x w' σ' hw hserver hmove
      rw [executions_append, statusWrites_append]
      exact ⟨hw.1.step hmove, hw.2.step (server_credible r P w q x w' hserver) hmove⟩)
  have htransport : ret.transport = true := by
    obtain ⟨err, herr⟩ := executeStep_deadlinePassed hstep hpassed
    rw [StepReturn.transport, herr]
    rfl
  have hmem := mem_executions_of_stepCalls hcall
  obtain ⟨hwaved, hunrec⟩ := hinv
  cases hret result rfl with
  | closed result =>
    rw [hwaved _ hmem] at htransport
    cases htransport
  | collected | pending =>
    rw [show executions tr = [] from hwaved] at hmem
    cases hmem
  | @unreachable fr flow outs _ =>
    rw [show executions tr = outs from hwaved] at hmem
    refine ⟨rfl, fun sent hsent s hs hfailed => ?_⟩
    have hopen := hunrec.not_terminal hmem hsent hs
    rw [hfailed] at hopen
    cases hopen

def slowStep : FlowStep where
  name := "call"
  action := { type := .http, http := some { url := "http://example.com/slow" } }
  timeout := some (10 * second)

def slowFlow : Flow := ⟨{ steps := [slowStep] }⟩

def slowRun : FlowRun where
  metadata := { name := ⟨"default", "slow-1"⟩ }
  spec := { flowRef := "slow" }

def unanswered : NetErr where
  text := "Post \"http://executor/execute\": "
  ctxErr := some .deadlineExceeded

def slowScript : Script where
  flows _ := .ok slowFlow
  io _ := stepAnswers 0 fun _ _ => .unsent unanswered

theorem slowScript_within : slowScript.Within (.ofFlow .none slowFlow) where
  fresh := rfl
  flows _ := rfl
  rejects _ h := by cases h

def slowFirst : Call :=
  slowScript.call plainReconciler ⟨"default", "slow-1"⟩ (.single slowRun 0)

def slowSecond : Call :=
  slowScript.call plainReconciler ⟨"default", "slow-1"⟩ slowFirst.after

def slowCall : StepCall :=
  { ctx := {}, step := slowStep, namespace_ := "default", uid := "", env := {} }

def slowReturn : StepReturn := ⟨.error (transportErr unanswered), 0⟩

theorem slowCall_run :
    StepRun plainReconciler slowCall (slowScript.stepRun plainReconciler slowCall).1
      slowReturn.result :=
  Script.stepRun_sound (by decide +kernel)

theorem unanswered_step_requeues_slow :
    slowFirst.result = some { requeueAfter := executorTransportBackoff } ∧
      ∀ sent ∈ statusWrites slowFirst.trace, ∀ s,
        findStepStatus sent.status.steps "call" = some s → s.phase ≠ .failed := by
  have hresult : slowFirst.result = some { requeueAfter := executorTransportBackoff } := by
    decide +kernel
  have hcall : (slowCall, slowReturn) ∈ stepCalls slowFirst.trace := by decide +kernel
  exact ⟨hresult, (unanswered_step_requeues (Script.call_exec slowScript_within hresult) hcall slowCall_run
    (by decide +kernel)).2⟩

/-- The request is not answered in time, the step is not recorded as failed, and the
next call executes the step again, with the same request. -/
theorem unanswered_request_sent_again :
    ∃ (P : Policy) (w w₁ w₂ : World) (key : NamespacedName) (tr tr' : List (Event Reply))
      (result : Result) (result' : Option Result) (c : StepCall) (ret ret' : StepReturn)
      (io : List (Event IoReply)),
      Exec (Server plainReconciler P) w (reconcile plainReconciler key) tr w₁ (some result) ∧
      c.step.action.type = .http ∧ (c, ret) ∈ stepCalls tr ∧
      StepRun plainReconciler c io ret.result ∧ (∃ e ∈ io, deadlinePassed e = true) ∧
      (∀ sent ∈ statusWrites tr, findStepStatus sent.status.steps c.step.name = none) ∧
      Exec (Server plainReconciler P) w₁ (reconcile plainReconciler key) tr' w₂ result' ∧
      (c, ret') ∈ stepCalls tr' :=
  ⟨.ofFlow .none slowFlow, .single slowRun 0, slowFirst.after, slowSecond.after,
    ⟨"default", "slow-1"⟩, slowFirst.trace, slowSecond.trace,
    { requeueAfter := executorTransportBackoff }, slowSecond.result, slowCall, slowReturn,
    slowReturn, _, Script.call_exec slowScript_within (by decide +kernel), rfl,
    by decide +kernel, slowCall_run, by decide +kernel, by decide +kernel,
    Script.call_exec slowScript_within rfl, by decide +kernel⟩

end KubeZap
