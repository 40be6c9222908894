import KubeZap.Controller.Simulation

/-! # Cancellation

A call of `Reconcile` that reads a Running FlowRun whose deletion or cancellation
was requested makes two writes and executes nothing. Around each of its requests the
other calls, scans and users go on as they like (`Amid`): what they do to a
cancelled FlowRun leaves it cancelled. The two checks look at Running FlowRuns only:
one that has not started is started, and executes its first wave, whatever was
requested before.
-/

namespace KubeZap

open Foundation
open Foundation.Versioned (Store WriteError)

/-- What the rest of the controller and the users may do from a reachable state. -/
def Meanwhile (r : FlowRunReconciler) (P : Policy) (w w' : World) : Prop :=
  ∃ w₀ procs procs', w₀.store.WF flowRunKind ∧ Runs r P ⟨w₀, []⟩ ⟨w, procs⟩ ∧
    Runs r P ⟨w, procs⟩ ⟨w', procs'⟩

/-- Each request is answered after others have gone on. -/
def Amid (r : FlowRunReconciler) (P : Policy) : Env World Reply :=
  fun w q x w' => ∃ w₁, Meanwhile r P w w₁ ∧ Server r P w₁ q x w'

section Cancel

variable {r : FlowRunReconciler} {P : Policy} {w w' : World}

theorem Meanwhile.wf (h : Meanwhile r P w w') : w'.store.WF flowRunKind := by
  obtain ⟨w₀, procs, procs', hwf, hbefore, hafter⟩ := h
  exact (Runs.underway (I := fun _ _ _ => True) (fun _ _ _ _ _ _ => trivial) hwf
    (fun _ _ _ => trivial) (hbefore.trans hafter)).1.1

def CancelledOrGone (w : World) (key : NamespacedName) : Prop :=
  ∀ o, w.store.current key = some o → o.status.phase = .cancelled

theorem CancelledOrGone.meanwhile {key : NamespacedName} (h : CancelledOrGone w key)
    (hothers : Meanwhile r P w w') : CancelledOrGone w' key := by
  obtain ⟨w₀, procs, procs', hwf, hbefore, hafter⟩ := hothers
  intro o ho
  obtain ⟨o₁, ho₁, habs⟩ := stored_absorbing hwf hbefore hafter key o ho
  have hphase := h o₁ ho₁
  rw [habs.phase (by rw [hphase]; rfl), hphase]

theorem Writes.cancelled {sent answer : FlowRun} (hwf : w.store.WF flowRunKind)
    (hw : Writes P flowRunKind.mergeStatus w sent (.ok answer) w')
    (hsent : sent.status.phase = .cancelled) : CancelledOrGone w' sent.metadata.name := by
  obtain ⟨stored, hacc, _⟩ := hw.accepted hwf
  intro o ho
  rcases hacc.stored ho with ⟨_, n, rfl⟩ | ⟨hne, _⟩
  · exact hsent
  · exact absurd rfl hne

theorem CancelledOrGone.update {key : NamespacedName} {sent answer : FlowRun}
    (h : CancelledOrGone w key) (hwf : w.store.WF flowRunKind)
    (hw : Writes P flowRunKind.mergeMain w sent (.ok answer) w') : CancelledOrGone w' key := by
  obtain ⟨stored, hacc, _⟩ := hw.accepted hwf
  intro o ho
  rcases hacc.stored ho with ⟨rfl, n, rfl⟩ | ⟨_, ho⟩
  · exact h stored hacc.current
  · exact h o ho

theorem completes_cancelFlowRun {fr : FlowRun} {msg : String}
    (h : Completes (Amid r P) w (cancelFlowRun fr msg) w' none) :
    CancelledOrGone w' fr.metadata.name := by
  unfold cancelFlowRun finishFlowRun send at h
  rw [completes_request] at h
  obtain ⟨now, w₁, _, h⟩ := h
  rw [completes_bind] at h
  obtain ⟨since, w₂, _, h⟩ := h
  rw [completes_request] at h
  obtain ⟨reply, w₃, ⟨before, hothers, hstatus⟩, h⟩ := h
  cases reply with
  | error e =>
    obtain ⟨_, hnone⟩ := completes_return.mp h
    cases hnone
  | ok answer =>
    dsimp only at h
    rw [completes_request] at h
    obtain ⟨reply, w₄, ⟨before', hothers', hupdate⟩, h⟩ := h
    obtain ⟨rfl, hnone⟩ := completes_return.mp h
    have hfinish := finish_status fr .cancelled "FlowRunCancelled" msg now since
    have hcancelled := hstatus.updateStatus_inv.cancelled hothers.wf hfinish.1
    rw [(sameVersion_finish fr .cancelled "FlowRunCancelled" msg now since).name] at hcancelled
    cases reply with
    | error e => cases hnone
    | ok answer' =>
      exact (hcancelled.meanwhile hothers').update hothers'.wf hupdate.update_inv

def Idle : Protocol Unit Reply := fun _ q x _ => execution ⟨q, x⟩ = none

theorem readSince_idle (fr : FlowRun) (now : Time) :
    Follows Idle (fun _ _ => True) (fun _ _ => True) () (readSince fr now) := by
  unfold readSince
  split
  · trivial
  · exact fun t _ => ⟨(), rfl, trivial⟩

theorem cancelFlowRun_idle (fr : FlowRun) (msg : String) :
    Follows Idle (fun _ _ => True) (fun _ _ => True) () (cancelFlowRun fr msg) := by
  intro now _
  refine ⟨(), rfl, ?_⟩
  change Follows Idle _ _ () (readSince fr now >>= _)
  refine (readSince_idle fr now).bind fun _ since _ => ?_
  intro x _
  refine ⟨(), rfl, ?_⟩
  cases x with
  | error e => trivial
  | ok answer => exact fun y _ => ⟨(), rfl, trivial⟩

theorem Joint.no_execution {env : Env World Reply} {tr : List (Event Reply)} {u u' : Unit}
    (h : Joint env Idle w u tr w' u') : executions tr = [] := by
  refine h.history (fun done _ _ => executions done = []) rfl ?_
  intro done w σ q x w' σ' hdone _ hmove
  rw [executions_append, hdone, show execution ⟨q, x⟩ = none from hmove]
  rfl

theorem reconcileFlowRun_stop {key : NamespacedName} {fr : FlowRun}
    (hrun : fr.status.phase = .running) (hstop : stopRequested fr = true) :
    ∃ msg, reconcileFlowRun r key fr = ended (cancelFlowRun fr msg) := by
  unfold reconcileFlowRun
  by_cases hdel : fr.metadata.deletionTimestamp.isSome = true
  · exact ⟨_, if_pos ⟨hdel, hrun⟩⟩
  · have hcancel : cancelRequested fr = true := by
      simpa [stopRequested, hdel] using hstop
    exact ⟨_, (if_neg fun h => hdel h.1).trans (if_pos ⟨hrun, hcancel⟩)⟩

/-- The stages of a call that did not read a Running FlowRun. -/
def Stage.Unstopped : Stage → Prop
  | .idle => False
  | .loaded fr => fr.status.phase ≠ .running
  | .inlined fr _ | .executing fr _ _ _ => fr.status.phase = .running
  | _ => True

def NoCancel : Req → Prop
  | .updateStatus sent => sent.status.phase ≠ .cancelled
  | _ => True

theorem noCancel_of {sent : FlowRun} {phase : FlowRunPhase} (h : sent.status.phase = phase)
    (hphase : phase ≠ .cancelled) : NoCancel (.updateStatus sent) :=
  fun hcancelled => hphase (h.symm.trans hcancelled)

theorem MayInline.running {σ : Stage} {fr : FlowRun} {d : Dispatch} (h : MayInline r σ fr d)
    (hσ : σ.Unstopped) : fr.status.phase = .running := by
  cases h with
  | admitted hd _ => exact hd.running
  | inlined => exact hσ

theorem Stage.unstopped_after {x : Except WriteError FlowRun} {next : FlowRun → Stage}
    (h : ∀ answer, x = .ok answer → (next answer).Unstopped) : (Stage.after x next).Unstopped :=
  Stage.after_of (fun _ => trivial) h

theorem Stage.Unstopped.step {key : NamespacedName} {σ σ' : Stage} {q : Req} {x : Reply q}
    (h : σ.Unstopped) (hx : Credible r q x) (hmove : Moves r key σ q x σ') :
    NoCancel q ∧ σ'.Unstopped := by
  cases hmove with
  | now | trigger | list | delete | executeNext => exact ⟨trivial, h⟩
  | read | readFails => exact h.elim
  | check | reread | flow | flowMissing | flowFails | release => exact ⟨trivial, trivial⟩
  | addFinalizer => exact ⟨trivial, unstopped_after fun _ _ => trivial⟩
  | start => exact ⟨noCancel_of rfl nofun, unstopped_after fun _ _ => trivial⟩
  | inline x hmay =>
    have hrun := hmay.running h
    refine ⟨noCancel_of hrun nofun, unstopped_after ?_⟩
    rintro answer rfl
    have hstatus : answer.status = FlowRunStatus.encode _ := hx
    change answer.status.phase = .running
    rw [hstatus]
    exact hrun
  | inlineFail x hmay =>
    exact ⟨noCancel_of (hmay.running h) nofun, unstopped_after fun _ _ => trivial⟩
  | wait x result hd | waitFail x hd =>
    exact ⟨noCancel_of hd.running nofun, unstopped_after fun _ _ => trivial⟩
  | execute ret hd => exact ⟨trivial, hd.running⟩
  | batch | batchFail =>
    exact ⟨noCancel_of h nofun, unstopped_after fun _ _ => trivial⟩
  | finish reason msg t since x hmay =>
    refine ⟨noCancel_of (finish_status ..).1 ?_, unstopped_after fun _ _ => trivial⟩
    cases hmay with
    | cancel hrun => exact absurd hrun h
    | orphaned | admitted | failing => nofun
  | succeed =>
    exact ⟨noCancel_of (succeed_status ..).1 nofun,
      unstopped_after fun _ _ => trivial⟩

theorem amid_credible (r : FlowRunReconciler) (P : Policy) : (Amid r P).Credible (Credible r) :=
  fun _ q x w' ⟨w₁, _, hserver⟩ => server_credible r P w₁ q x w' hserver

theorem reconcileFlowRun_noCancel {key : NamespacedName} {fr : FlowRun} {tr : List (Event Reply)}
    {result : Option Result} (hrun : fr.status.phase ≠ .running)
    (h : Exec (Amid r P) w (reconcileFlowRun r key fr) tr w' result) : ∀ e ∈ tr, NoCancel e.1 := by
  obtain ⟨σ, hjoint, -⟩ := h.joint (amid_credible r P) (reconcileFlowRun_conforms fr)
  have hinv : σ.Unstopped ∧ ∀ e ∈ tr, NoCancel e.1 := by
    refine hjoint.history (fun done _ σ => σ.Unstopped ∧ ∀ e ∈ done, NoCancel e.1)
      ⟨hrun, List.forall_mem_nil _⟩ ?_
    intro done w σ q x w' σ' hdone henv hmove
    obtain ⟨hq, hσ'⟩ := hdone.1.step (amid_credible r P w q x w' henv) hmove
    exact ⟨hσ', List.forall_mem_append.mpr ⟨hdone.2, List.forall_mem_singleton.mpr hq⟩⟩
  exact hinv.2

/-- A call that reads a Running FlowRun whose deletion or cancellation was requested
executes no step, and once it has returned without an error the FlowRun is cancelled
or gone. A call that reads one that is not Running cancels nothing. -/
theorem stop_request_honoured {key : NamespacedName} {fr : FlowRun} {tr : List (Event Reply)}
    {result : Option Result}
    (h : Exec (Amid r P) w (reconcile r key) (⟨.getFlowRun key, .ok fr⟩ :: tr) w' result) :
    (fr.status.phase = .running → stopRequested fr = true →
      executions (⟨.getFlowRun key, .ok fr⟩ :: tr) = [] ∧
        ∀ res, result = some res → res.err = none → CancelledOrGone w' key) ∧
    (fr.status.phase ≠ .running → ∀ e ∈ tr, NoCancel e.1) := by
  cases h with
  | @step _ w₁ _ _ _ _ _ _ hread hrest =>
    change Exec _ _ (reconcileFlowRun r key fr) _ _ _ at hrest
    refine ⟨?_, fun hrun => reconcileFlowRun_noCancel hrun hrest⟩
    intro hrun hstop
    obtain ⟨_, _, hserver⟩ := hread
    have hname : fr.metadata.name = key := by
      cases hserver with
      | read _ => rfl
    obtain ⟨msg, hprogram⟩ := @reconcileFlowRun_stop r key fr hrun hstop
    rw [hprogram] at hrest
    have hidle : Follows Idle (fun _ _ => True) (fun _ _ => True) () (ended (cancelFlowRun fr msg)) :=
      (cancelFlowRun_idle fr msg).bind fun _ _ _ => trivial
    obtain ⟨_, hjoint, _⟩ := hrest.joint (fun _ _ _ _ _ => trivial) hidle
    refine ⟨?_, ?_⟩
    · rw [executions, List.filterMap_cons_none rfl]
      exact Joint.no_execution hjoint
    · intro res hres herr
      subst hres
      have hdone : Completes (Amid r P) w₁ (ended (cancelFlowRun fr msg)) w' res := ⟨tr, hrest⟩
      rw [ended, completes_bind] at hdone
      obtain ⟨err, w₂, hcancel, hreturn⟩ := hdone
      obtain ⟨rfl, rfl⟩ := completes_return.mp hreturn
      have hnone : err = none := herr
      subst hnone
      rw [← hname]
      exact completes_cancelFlowRun hcancel

end Cancel

theorem Exec.amid {α : Type} {r : FlowRunReconciler} {P : Policy} {w₀ w w' : World}
    {p : Reconciler α} {tr : List (Event Reply)} {o : Option α} (hwf : w₀.store.WF flowRunKind)
    (hreach : Runs r P ⟨w₀, []⟩ ⟨w, [p >>= fun _ => pure ()]⟩) (h : Exec (Server r P) w p tr w' o) :
    Exec (Amid r P) w p tr w' o := by
  induction h with
  | done w a => exact .done w a
  | cut w p => exact .cut w p
  | @step w w₁ w₂ q x k tr o hserver _ ih =>
    refine .step ⟨w, ⟨w₀, _, _, hwf, hreach, .refl⟩, hserver⟩ (ih ?_)
    exact hreach.tail (@Pool.Step.call _ _ _ _ _ _ w w₁ [] [] q x _ hserver)

theorem Script.call_trace {r : FlowRunReconciler} {s : Script} {key : NamespacedName} {w : World}
    {fr : FlowRun} (hstored : w.store.current key = some fr) (hname : fr.metadata.name = key) :
    (s.call r key w).trace =
      ⟨.getFlowRun key, .ok fr⟩ :: ((reconcileFlowRun r key fr).simulate (s.serve r) w).1 := by
  have hserve : s.serve r w (.getFlowRun key) = some (.ok fr, w) := by
    simp only [Script.serve, hstored, if_pos hname]
  change ((reconcile r key).simulate (s.serve r) w).1 = _
  unfold reconcile send
  rw [Program.request_bind, Program.simulate, hserve]

section Stop

def auditFlow : Flow :=
  ⟨{ steps := [{ name := "record", action := { type := .transform, transform := some ⟨[]⟩ } }] }⟩

def auditRun (phase : FlowRunPhase) : FlowRun where
  metadata :=
    { name := ⟨"default", "audit-1"⟩
      annotations := [( cancelAnnotation, annotationValueTrue)] }
  spec := { flowRef := "audit" }
  status := { phase := phase }

def auditScript : Script where
  flows _ := .ok auditFlow
  io _ := stepAnswers 0 fun _ _ => .unbuilt "not used"

def auditCall (phase : FlowRunPhase) : Call :=
  auditScript.call plainReconciler ⟨"default", "audit-1"⟩ (.single (auditRun phase) 0)

theorem audit_exec (phase : FlowRunPhase) :
    Exec (Amid plainReconciler (.ofFlow .none auditFlow)) (.single (auditRun phase) 0)
      (reconcile plainReconciler ⟨"default", "audit-1"⟩) (auditCall phase).trace
      (auditCall phase).after (auditCall phase).result :=
  Exec.amid (World.single_wf rfl) (.single (.spawn (.call _)))
    (Script.call_exec ⟨rfl, fun _ => rfl, fun _ h => by cases h⟩ rfl)

theorem audit_trace (phase : FlowRunPhase) :
    ∃ tr, (auditCall phase).trace =
      ⟨.getFlowRun ⟨"default", "audit-1"⟩, .ok (auditRun phase)⟩ :: tr :=
  ⟨_, Script.call_trace (by simp [World.single, auditRun]) rfl⟩

/-- A Running FlowRun is cancelled. -/
theorem stop_request_honoured_audit :
    executions (auditCall .running).trace = [] ∧
      ∃ o, (auditCall .running).after.store.current ⟨"default", "audit-1"⟩ = some o ∧
        o.status.phase = .cancelled := by
  obtain ⟨tr, htrace⟩ := audit_trace .running
  have hexec := audit_exec .running
  rw [htrace] at hexec
  have hresult : (auditCall .running).result = some {} := by decide +kernel
  obtain ⟨hnone, hstored⟩ := (stop_request_honoured hexec).1 rfl (by decide)
  rw [← htrace] at hnone
  refine ⟨hnone, ?_⟩
  have hkept : ((auditCall .running).after.store.current ⟨"default", "audit-1"⟩).isSome = true := by
    decide +kernel
  obtain ⟨o, ho⟩ := Option.isSome_iff_exists.mp hkept
  exact ⟨o, ho, hstored {} hresult rfl o ho⟩

/-- A FlowRun that was to be cancelled before its start is started, and its step is
executed. -/
theorem stop_request_ignored :
    ∃ (r : FlowRunReconciler) (P : Policy) (w w' : World) (key : NamespacedName) (fr : FlowRun)
      (tr : List (Event Reply)),
      fr.status.phase = .pending ∧ cancelRequested fr = true ∧
      Exec (Amid r P) w (reconcile r key) (⟨.getFlowRun key, .ok fr⟩ :: tr) w'
        (some { requeue := true }) ∧
      executions (⟨.getFlowRun key, .ok fr⟩ :: tr) ≠ [] ∧
      ∃ o, w'.store.current key = some o ∧ o.status.phase = .running := by
  obtain ⟨tr, htrace⟩ := audit_trace .pending
  have hexec := audit_exec .pending
  have hresult : (auditCall .pending).result = some { requeue := true } := by decide +kernel
  have hrunning : ((auditCall .pending).after.store.current ⟨"default", "audit-1"⟩).map
      (fun o => o.status.phase) = some .running := by
    decide +kernel
  have hexecuted : (executions (auditCall .pending).trace).length = 1 := by decide +kernel
  obtain ⟨o, ho, hphase⟩ := Option.map_eq_some_iff.mp hrunning
  rw [hresult, htrace] at hexec
  rw [htrace] at hexecuted
  refine ⟨plainReconciler, .ofFlow .none auditFlow, .single (auditRun .pending) 0, _,
    ⟨"default", "audit-1"⟩, auditRun .pending, tr, rfl, by decide, hexec, ?_, o, ho, hphase⟩
  intro hnil
  rw [hnil] at hexecuted
  cases hexecuted

end Stop

end KubeZap
