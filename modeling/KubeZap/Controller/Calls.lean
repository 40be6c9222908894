import KubeZap.Controller.Absorbing

/-! # One call after another

Calls of `Reconcile` that do not overlap. Where they read what is stored, the FlowRun
in the memory of a call is the stored one until the call ends (`Synced`).
`reconcile_along` is the rule by which a property of a whole call is proved: name
an invariant of the requests made so far, and show that each move keeps it.
`History.each` is the rule by which it is then proved of every call of a history.
-/

namespace KubeZap

open Foundation
open Foundation.Versioned (Store WriteError)

/-! ## Histories -/

structure Call where
  key : NamespacedName
  before : World
  trace : List (Event Reply)
  after : World
  result : Option Result

/-- Calls in order, with users in between. -/
inductive History (r : FlowRunReconciler) (P : Policy) : World → List Call → World → Prop
  | nil (w : World) : History r P w [] w
  | call {w w₁ w₂ : World} {key : NamespacedName} {tr : List (Event Reply)} {res : Option Result}
      {cs : List Call} :
      Exec (Server r P) w (reconcile r key) tr w₁ res → History r P w₁ cs w₂ →
      History r P w (⟨key, w, tr, w₁, res⟩ :: cs) w₂
  | users {w w₁ w₂ : World} {cs : List Call} :
      Users w w₁ → History r P w₁ cs w₂ → History r P w cs w₂

theorem History.runs {r : FlowRunReconciler} {P : Policy} {w w' : World} {cs : List Call}
    (h : History r P w cs w') : Runs r P ⟨w, []⟩ ⟨w', []⟩ := by
  induction h with
  | nil w => exact .refl
  | @call w w₁ w₂ key tr res cs hrun _ ih =>
    obtain ⟨p', hpool⟩ := @Exec.pool _ _ _ _ _ (Controller r) Users _ _ _ _ _ hrun []
    have hquit : Pool.Step (Server r P) (Controller r) Users ⟨w₁, [p']⟩ ⟨w₁, []⟩ :=
      @Pool.Step.quit _ _ _ _ _ _ w₁ [] [] p'
    exact .head (.spawn (.call key)) (hpool.trans (.head hquit ih))
  | users huser _ ih => exact .head (.move huser) ih

def stepCall : Event Reply → Option (StepCall × StepReturn)
  | ⟨.executeStep c, ret⟩ => some (c, ret)
  | _ => none

/-- The `executeStep` calls of a trace, with what they returned. -/
def stepCalls (tr : List (Event Reply)) : List (StepCall × StepReturn) := tr.filterMap stepCall

def execution (e : Event Reply) : Option (FlowStep × StepReturn) :=
  (stepCall e).map fun o => (o.1.step, o.2)

def executions (tr : List (Event Reply)) : List (FlowStep × StepReturn) := tr.filterMap execution

theorem mem_executions_of_stepCalls {tr : List (Event Reply)} {o : StepCall × StepReturn}
    (h : o ∈ stepCalls tr) : (o.1.step, o.2) ∈ executions tr := by
  obtain ⟨e, he, heq⟩ := List.mem_filterMap.mp h
  exact List.mem_filterMap.mpr ⟨e, he, by rw [execution, heq]; rfl⟩

theorem executions_append (tr : List (Event Reply)) (e : Event Reply) :
    executions (tr ++ [e]) = executions tr ++ (execution e).toList := by
  unfold executions
  rw [List.filterMap_append]
  cases h : execution e <;> simp [h]

/-! ## The wave of a call -/

/-- The steps a call has executed, by the stage it is in: those of its wave while it
is in it, and once it has left it a wave without transport errors, if any. -/
def Waved (done : List (FlowStep × StepReturn)) : Stage → Prop
  | .executing _ _ outs _ => done = outs
  | .failing _ | .releasing _ | .closed _ => ∀ o ∈ done, o.2.transport = false
  | .idle | .loaded _ | .orphaned _ | .admitted _ _ _ | .entering _ _ | .inlined _ _
  | .scanning _ | .scanReleasing _ _ => done = []

section Wave

variable {r : FlowRunReconciler} {key : NamespacedName} {done : List (FlowStep × StepReturn)}
variable {σ σ' : Stage} {q : Req} {x : Reply q}

theorem waved_nil (hσ : ∀ fr flow outs rest, σ ≠ .executing fr flow outs rest) :
    Waved [] σ := by
  cases σ with
  | executing fr flow outs rest => exact absurd rfl (hσ fr flow outs rest)
  | _ => simp [Waved]

theorem waved_nil_after {x : Except WriteError FlowRun} {next : FlowRun → Stage}
    (hσ : ∀ o fr flow outs rest, next o ≠ .executing fr flow outs rest) :
    Waved [] (.after x next) :=
  Stage.after_of (fun _ => waved_nil (by simp)) fun answer _ => waved_nil (hσ answer)

theorem Waved.eq_nil {fr : FlowRun} {d : Dispatch} (h : Waved done σ)
    (hmay : MayInline r σ fr d) : done = [] := by
  cases hmay with
  | admitted | inlined => exact h

theorem Waved.silent (h : Waved done σ) (hmove : Moves r key σ q x σ')
    (hq : execution ⟨q, x⟩ = none) : Waved done σ' := by
  cases hmove with
  | now | check | read | trigger | list | delete | flow | flowMissing | release => exact h
  | readFails | reread | flowFails => rw [show done = [] from h]; exact waved_nil (by simp)
  | addFinalizer | wait | waitFail | succeed =>
    rw [show done = [] from h]; exact waved_nil_after (by simp)
  | start t y hmay =>
    have hnil : done = [] := by
      cases hmay with
      | admitted | entering => exact h
    rw [hnil]
    exact waved_nil_after (by simp)
  | inline y hmay | inlineFail y hmay => rw [h.eq_nil hmay]; exact waved_nil_after (by simp)
  | execute | executeNext => cases hq
  | @batch fr flow outs y hreach | @batchFail fr flow outs y hreach =>
    rw [show done = outs from h]
    cases y with
    | error | ok => exact hreach
  | finish reason msg t since y hmay =>
    have hleft : ∀ o ∈ done, o.2.transport = false := by
      cases hmay with
      | cancel | orphaned | admitted => rw [show done = [] from h]; simp
      | failing => exact h
    cases y with
    | error | ok => exact hleft

theorem Waved.step (h : Waved done σ) (hmove : Moves r key σ q x σ') :
    Waved (done ++ (execution ⟨q, x⟩).toList) σ' := by
  cases q with
  | executeStep c =>
    cases hmove with
    | @execute fr flow checked d step rest _ ret _ _ _ _ hstep _ =>
      have hnil : done = [] := h
      rw [hnil, ← hstep]
      rfl
    | @executeNext fr flow outs step rest _ ret hstep _ =>
      have houts : done = outs := h
      rw [houts, ← hstep]
      rfl
  | _ =>
    have hsilent := h.silent hmove rfl
    simpa [execution, stepCall] using hsilent

end Wave

def Req.writes : Req → Bool
  | .update _ | .updateStatus _ | .delete _ => true
  | .now | .getFlowRun _ | .listFlowRuns _ _ | .getFlow _ | .getTrigger _ | .executeStep _ => false

/-! ## The FlowRun in memory -/

def Named (key : NamespacedName) : Stage → Prop
  | .loaded fr | .orphaned fr | .admitted fr _ _ | .entering fr _ | .executing fr _ _ _
  | .inlined fr _ | .failing fr | .releasing fr => fr.metadata.name = key
  | .idle | .closed _ | .scanning _ | .scanReleasing _ _ => True

section Names

variable {r : FlowRunReconciler} {P : Policy} {w w' : World} {key : NamespacedName}
variable {σ σ' : Stage} {q : Req} {x : Reply q}

theorem Moves.status_name {sent : FlowRun} {x : Except WriteError FlowRun}
    (hmove : Moves r key σ (.updateStatus sent) x σ') (h : Named key σ) :
    sent.metadata.name = key := by
  cases hmove with
  | start t x hmay | inline x hmay | inlineFail x hmay => cases hmay <;> exact h
  | wait | waitFail | batch | batchFail => exact h
  | @finish σ fr phase reason msg t since x hmay =>
    refine (sameVersion_finish fr phase reason msg t since).name.trans ?_
    cases hmay <;> exact h
  | @succeed fr flow checked t since x _ _ _ => exact (sameVersion_succeed fr t since).name.trans h

theorem Writes.answer_name {merge : FlowRun → FlowRun → FlowRun} {sent answer : FlowRun}
    (hwf : w.store.WF flowRunKind) (hw : Writes P merge w sent (.ok answer) w')
    (hmerge : ∀ c o, (merge c o).metadata.name = c.metadata.name) :
    answer.metadata.name = sent.metadata.name := by
  obtain ⟨stored, hacc, _, n, hanswer⟩ := hw.accepted hwf
  rw [hanswer]
  exact (hmerge stored sent).trans hacc.name_eq

theorem Named.step (hwf : w.store.WF flowRunKind) (h : Named key σ)
    (hserver : Server r P w q x w') (hmove : Moves r key σ q x σ') : Named key σ' := by
  cases q with
  | updateStatus sent =>
    have hanswer : ∀ answer, x = .ok answer → answer.metadata.name = key := by
      rintro answer rfl
      rw [hserver.updateStatus_inv.answer_name hwf flowRunKind.key_mergeStatus]
      exact hmove.status_name h
    cases hmove with
    | start | inline | inlineFail | waitFail | batchFail | finish | succeed =>
      exact Stage.after_of (fun _ => trivial) hanswer
    | wait | batch => exact Stage.after_of (fun _ => trivial) fun _ _ => trivial
  | update sent =>
    cases hmove with
    | @addFinalizer fr flow x _ =>
      apply Stage.after_of fun _ => trivial
      rintro answer rfl
      exact (hserver.update_inv.answer_name hwf flowRunKind.key_mergeMain).trans h
    | release x => trivial
  | getFlowRun k =>
    cases hmove with
    | read fr =>
      cases hserver with
      | read _ => rfl
    | readFails | reread => trivial
  | _ => cases hmove <;> first | exact h | trivial

end Names

/-! ## The FlowRun in memory is the stored one -/

/-- `fr` is what is stored under its name. -/
def Fresh (w : World) (key : NamespacedName) (fr : FlowRun) : Prop :=
  fr.metadata.name = key ∧ ∃ o, w.store.current key = some o ∧ Holds o fr

/-- A terminal FlowRun may be collected while the call is under way. -/
def Synced (w : World) (key : NamespacedName) : Stage → Prop
  | .loaded fr => fr.metadata.name = key ∧ (fr.status.phase.terminal = false → Fresh w key fr)
  | .orphaned fr | .admitted fr _ _ | .entering fr _ | .executing fr _ _ _ | .inlined fr _
  | .failing fr | .releasing fr => Fresh w key fr
  | .idle | .closed _ | .scanning _ | .scanReleasing _ _ => True

section Sync

variable {r : FlowRunReconciler} {P : Policy} {w w' : World} {key : NamespacedName}
variable {σ σ' : Stage} {q : Req} {x : Reply q} {fr sent answer : FlowRun}

theorem Fresh.mono (h : Fresh w key fr) (hs : w'.store = w.store) :
    Fresh w' key fr := by
  rw [Fresh, hs]
  exact h

theorem Synced.mono (h : Synced w key σ) (hs : w'.store = w.store) :
    Synced w' key σ := by
  cases σ with
  | loaded fr => exact ⟨h.1, fun hactive => (h.2 hactive).mono hs⟩
  | idle | closed | scanning | scanReleasing => trivial
  | orphaned | admitted | entering | executing | inlined | failing | releasing =>
    exact Fresh.mono h hs

theorem Fresh.removeFinalizer (h : Fresh w key fr) : Fresh w key fr.removeFinalizer := by
  obtain ⟨hname, o, ho, hholds⟩ := h
  exact ⟨hname, o, ho, hholds.removeFinalizer⟩

theorem Fresh.setPhaseLabel (h : Fresh w key fr) (phase : FlowRunPhase) :
    Fresh w key (fr.setPhaseLabel phase) := by
  obtain ⟨hname, o, ho, hholds⟩ := h
  exact ⟨hname, o, ho, hholds.setPhaseLabel phase⟩

theorem Writes.fresh {merge : FlowRun → FlowRun → FlowRun}
    (hwf : w.store.WF flowRunKind) (hw : Writes P merge w sent (.ok answer) w')
    (hname : sent.metadata.name = key) (hmerge : ∀ c o, (merge c o).metadata.name = c.metadata.name)
    (hkept : ∀ stored, w.store.current key = some stored →
      flowRunKind.released (merge stored sent) = false) :
    Fresh w' key answer := by
  obtain ⟨stored, hacc, hanswer, _⟩ := hw.accepted hwf
  have hkey : flowRunKind.key stored = key := hacc.name_eq.trans hname
  have hnamed : answer.metadata.name = key := (hw.answer_name hwf hmerge).trans hname
  rcases Store.commit_current (merge stored sent) hacc.current_stored with
    hstored | ⟨hreleased, _⟩
  · rw [hkey, ← hacc.store, ← hanswer] at hstored
    exact ⟨hnamed, answer, hstored, .refl answer⟩
  · rw [hkept stored (by rw [← hname]; exact hacc.current)] at hreleased
    cases hreleased

theorem Writes.fresh_status (hwf : w.store.WF flowRunKind)
    (hw : Writes P flowRunKind.mergeStatus w sent (.ok answer) w')
    (hname : sent.metadata.name = key) : Fresh w' key answer :=
  hw.fresh hwf hname flowRunKind.key_mergeStatus fun stored hstored => by
    rw [flowRunKind.released_mergeStatus]
    exact (hwf.known _ _ hstored).2.2

theorem Writes.stores_status (hwf : w.store.WF flowRunKind)
    (hw : Writes P flowRunKind.mergeStatus w sent (.ok answer) w')
    (hname : sent.metadata.name = key) :
    ∃ o, w'.store.current key = some o ∧ o.status = sent.status.encode := by
  obtain ⟨_, o, ho, hholds⟩ := hw.fresh_status hwf hname
  obtain ⟨stored, n, hanswer⟩ := hw.answer
  refine ⟨o, ho, ?_⟩
  rw [← hholds.status, hanswer]
  rfl

theorem Writes.ok_of_fresh {merge : FlowRun → FlowRun → FlowRun}
    {x : Except WriteError FlowRun} (hnone : P.faults = .none) (hw : Writes P merge w sent x w')
    (hfr : Fresh w key fr) (hsame : SameVersion fr sent) : ∃ answer, x = .ok answer := by
  obtain ⟨hname, o, ho, hholds⟩ := hfr
  have hcur : w.store.current (flowRunKind.key sent) = some o := by
    change w.store.current sent.metadata.name = some o
    rw [hsame.name, hname]
    exact ho
  have hver : flowRunKind.version sent = flowRunKind.version o :=
    hsame.version.trans hholds.version
  cases hw with
  | served hserved =>
    rw [Store.write, hcur] at hserved
    simp only [hver, if_true] at hserved
    exact ⟨_, (Prod.mk.inj hserved).1.symm⟩
  | rejected e hf => exact absurd hnone hf
  | lost e hf _ =>
    rw [hnone] at hf
    cases hf

theorem Server.store_eq (h : Server r P w q x w') (hq : q.writes = false) :
    w'.store = w.store := by
  cases h with
  | update | updateStatus | delete => cases hq
  | _ => rfl

theorem Synced.step (hfresh : P.stale = false) (hwf : w.store.WF flowRunKind)
    (hnamed : Named key σ) (h : Synced w key σ)
    (hserver : Server r P w q x w') (hmove : Moves r key σ q x σ') : Synced w' key σ' := by
  cases q with
  | updateStatus sent =>
    have hanswer : ∀ answer, x = .ok answer → Fresh w' key answer := by
      rintro answer rfl
      exact hserver.updateStatus_inv.fresh_status hwf (hmove.status_name hnamed)
    cases hmove with
    | start | inline | inlineFail | waitFail | batchFail =>
      exact Stage.after_of (fun _ => trivial) hanswer
    | wait | batch => exact Stage.after_of (fun _ => trivial) fun _ _ => trivial
    | finish reason msg t since x _ =>
      exact Stage.after_of (fun _ => trivial) fun answer ha => (hanswer answer ha).removeFinalizer
    | succeed t since x _ _ _ =>
      exact Stage.after_of (fun _ => trivial) fun answer ha =>
        ((hanswer answer ha).setPhaseLabel .succeeded).removeFinalizer
  | update sent =>
    have hw := hserver.update_inv
    cases hmove with
    | @addFinalizer fr flow x _ =>
      refine Stage.after_of (fun _ => trivial) fun answer ha => ?_
      refine (ha ▸ hw).fresh hwf h.1 flowRunKind.key_mergeMain fun stored _ => ?_
      -- the finalizer just added holds the object back
      change (stored.metadata.deletionTimestamp.isSome &&
        (fr.metadata.finalizers ++ [executingFinalizer]).isEmpty) = false
      simp
    | release x => trivial
  | delete o =>
    cases hmove with
    | delete x hterm => exact ⟨h.1, fun hactive => by rw [hterm] at hactive; cases hactive⟩
  | getFlowRun k =>
    cases hmove with
    | read fr =>
      cases hserver with
      | read hread => exact ⟨rfl, fun _ => ⟨rfl, fr, hread.current hfresh, .refl fr⟩⟩
    | readFails | reread => trivial
  | getFlow k =>
    have hs := hserver.store_eq rfl
    cases hmove with
    | flow flow hcont | flowMissing msg hcont => exact (h.2 hcont.phase).mono hs
    | flowFails e => trivial
  | now | listFlowRuns | getTrigger | executeStep =>
    have hs := hserver.store_eq rfl
    cases hmove <;> exact h.mono hs

end Sync

/-! ## The rule of one call -/

/-- What is stored in `w'` descends from what was stored in `w`. -/
def Descends (w w' : World) : Prop :=
  ∀ k o', w'.store.current k = some o' → ∃ o, w.store.current k = some o ∧
    o'.spec = o.spec ∧ Absorbs o.status o'.status

theorem Descends.refl (w : World) : Descends w w := fun _ o ho => ⟨o, ho, rfl, .refl _⟩

theorem Refines.descends {r : FlowRunReconciler} {P : Policy} {w₀ w w' : World}
    (h : Refines r P w w') (hw : Descends w₀ w) : Descends w₀ w' := by
  intro k o' ho'
  obtain ⟨o, ho, hspec, hstatus⟩ := h k o' ho'
  obtain ⟨o₀, ho₀, hspec₀, habs⟩ := hw k o ho
  refine ⟨o₀, ho₀, hspec.trans hspec₀, ?_⟩
  rcases hstatus with hsame | ⟨new, hnew, htrans⟩
  · rw [hsame]; exact habs
  · rw [hnew]; exact habs.transition htrans

theorem Users.descends {w w' : World} (h : Users w w') : Descends w w' := by
  intro k o' ho'
  obtain ⟨o, ho, hkept⟩ := h.touched.current ho'
  exact ⟨o, ho, hkept.spec, hkept.status ▸ .refl _⟩

/-- What holds at every point of a call that started in `w₀` and made the requests
of `tr`. -/
structure Along (r : FlowRunReconciler) (P : Policy) (w₀ : World) (key : NamespacedName)
    (tr : List (Event Reply)) (w : World) (σ : Stage) : Prop where
  wf : w.store.WF flowRunKind
  held : Held r P w σ
  named : Named key σ
  synced : P.stale = false → Synced w key σ
  descends : Descends w₀ w
  waved : Waved (executions tr) σ

section Rule

variable {r : FlowRunReconciler} {P : Policy} {key : NamespacedName} {w₀ w w' : World}
variable {tr : List (Event Reply)} {res : Option Result}

theorem Along.step {σ σ' : Stage} {q : Req} {x : Reply q}
    (h : Along r P w₀ key tr w σ) (hserver : Server r P w q x w')
    (hmove : Moves r key σ q x σ') : Along r P w₀ key (tr ++ [⟨q, x⟩]) w' σ' where
  wf := (hserver.effect h.wf).change.wf h.wf
  held := h.held.own h.wf hserver (.call hmove)
  named := h.named.step h.wf hserver hmove
  synced hfresh := (h.synced hfresh).step hfresh h.wf h.named hserver hmove
  descends := (h.held.refines h.wf hserver (.call hmove)).descends h.descends
  waved := by
    rw [executions_append]
    exact h.waved.step hmove

/-- To show `inv` of a whole call, show that each of its moves keeps `inv`. -/
theorem reconcile_along (hwf : w₀.store.WF flowRunKind)
    (hrun : Exec (Server r P) w₀ (reconcile r key) tr w' res)
    (inv : List (Event Reply) → World → Stage → Prop) (hinit : inv [] w₀ .idle)
    (hstep : ∀ tr w σ q x w' σ', Along r P w₀ key tr w σ → inv tr w σ →
      Server r P w q x w' → Moves r key σ q x σ' → inv (tr ++ [⟨q, x⟩]) w' σ') :
    ∃ σ, Along r P w₀ key tr w' σ ∧ inv tr w' σ ∧ ∀ a, res = some a → Returns r σ a := by
  obtain ⟨σ, hjoint, hret⟩ := hrun.joint (server_credible r P) (reconcile_conforms r key)
  have hinv := hjoint.history (fun tr w σ => Along r P w₀ key tr w σ ∧ inv tr w σ)
    ⟨⟨hwf, trivial, trivial, fun _ => trivial, .refl w₀, rfl⟩, hinit⟩ (by
      intro tr w σ q x w' σ' hw hserver hmove
      exact ⟨hw.1.step hserver hmove, hstep tr w σ q x w' σ' hw.1 hw.2 hserver hmove⟩)
  exact ⟨σ, hinv.1, hinv.2, hret⟩

theorem reconcile_descends (hwf : w₀.store.WF flowRunKind)
    (hrun : Exec (Server r P) w₀ (reconcile r key) tr w' res) :
    w'.store.WF flowRunKind ∧ Descends w₀ w' := by
  obtain ⟨σ, hal, _⟩ := reconcile_along hwf hrun (fun _ _ _ => True) trivial
    (fun _ _ _ _ _ _ _ _ _ _ _ => trivial)
  exact ⟨hal.wf, hal.descends⟩

/-- To show `goal` of every call of a history, give an invariant of the store that
calls and users keep, and show `goal` of a call that starts in it. Both may use a
condition that all the calls meet. -/
theorem History.each {cs : List Call} {cond goal : Call → Prop} (hhist : History r P w cs w')
    (inv : World → Prop) (hwf : w.store.WF flowRunKind) (hinit : inv w) (hcond : ∀ c ∈ cs, cond c)
    (husers : ∀ w w', w.store.WF flowRunKind → inv w → Users w w' → inv w')
    (hcall : ∀ c : Call, c.before.store.WF flowRunKind → inv c.before →
      Exec (Server r P) c.before (reconcile r c.key) c.trace c.after c.result → cond c →
      inv c.after ∧ goal c) : ∀ c ∈ cs, goal c := by
  induction hhist with
  | nil w => nofun
  | @call w w₁ w₂ key tr res cs hrun _ ih =>
    obtain ⟨hfirst, hcond⟩ := List.forall_mem_cons.mp hcond
    obtain ⟨hnext, hgoal⟩ := hcall ⟨key, w, tr, w₁, res⟩ hwf hinit hrun hfirst
    exact List.forall_mem_cons.mpr
      ⟨hgoal, ih (reconcile_descends hwf hrun).1 hnext hcond⟩
  | users huser _ ih =>
    exact ih (huser.touched.change.wf hwf) (husers _ _ hwf hinit huser) hcond

end Rule

/-! ## Two writes that belong together -/

/-- How an answered request bears on two writes of which the second has to follow the first. -/
inductive Mark
  /-- the first was accepted -/
  | opens
  /-- the second was accepted -/
  | closes
  /-- a write failed -/
  | fails
  /-- a write failed that may be the first, with its answer lost -/
  | spoils
  | neutral

inductive Pairing
  | settled
  | opened
  | stopped
deriving DecidableEq

def Pairing.next : Pairing → Mark → Pairing
  | .settled, .opens => .opened
  | .settled, .spoils => .stopped
  | .opened, .closes => .settled
  | .opened, .fails | .opened, .spoils => .stopped
  | b, _ => b

@[simp] theorem Pairing.next_neutral (b : Pairing) : b.next .neutral = b := by cases b <;> rfl

def pairing (mark : Event Reply → Mark) (tr : List (Event Reply)) : Pairing :=
  tr.foldl (fun b e => b.next (mark e)) .settled

theorem pairing_append (mark : Event Reply → Mark) (tr : List (Event Reply)) (e : Event Reply) :
    pairing mark (tr ++ [e]) = (pairing mark tr).next (mark e) := by
  rw [pairing, List.foldl_append]
  rfl

/-- The call was stopped, by a write that failed or by a restart, after the first write and before
the second. -/
def Call.Stopped (mark : Event Reply → Mark) (c : Call) : Prop :=
  pairing mark c.trace = .stopped ∨ pairing mark c.trace = .opened ∧ c.result = none

instance (mark : Event Reply → Mark) (c : Call) : Decidable (c.Stopped mark) :=
  inferInstanceAs (Decidable (_ ∨ _ ∧ _))

/-! ## A FlowRun that has ended -/

def Ended (w : World) (key : NamespacedName) : Prop :=
  ∀ o, w.store.current key = some o → o.status.phase.terminal = true

theorem ended_of_current {w : World} {key : NamespacedName} {o : FlowRun}
    (ho : w.store.current key = some o) (hterm : o.status.phase.terminal = true) : Ended w key := by
  intro o' ho'
  have heq : o' = o := Option.some.inj (ho'.symm.trans ho)
  rw [heq]
  exact hterm

theorem Ended.mono {w w' : World} {key : NamespacedName} (h : Ended w key)
    (hdesc : Descends w w') : Ended w' key := by
  intro o' ho'
  obtain ⟨o, ho, _, habs⟩ := hdesc key o' ho'
  rw [habs.phase (h o ho)]
  exact h o ho

section Retirement

variable {r : FlowRunReconciler} {P : Policy} {key : NamespacedName} {w₀ w w' : World}
variable {tr : List (Event Reply)} {res : Option Result}

def Retired : Stage → Prop
  | .idle | .closed _ => True
  | .loaded fr => fr.status.phase.terminal = true
  | .orphaned _ | .admitted _ _ _ | .entering _ _ | .executing _ _ _ _ | .inlined _ _
  | .failing _ | .releasing _ | .scanning _ | .scanReleasing _ _ => False

theorem Retired.step {σ σ' : Stage} {q : Req} {x : Reply q} (hfresh : P.stale = false)
    (hended : Ended w₀ key) (hdesc : Descends w₀ w) (h : Retired σ) (hserver : Server r P w q x w')
    (hmove : Moves r key σ q x σ') : Retired σ' ∧ execution ⟨q, x⟩ = none := by
  cases hmove with
  | now σ t => exact ⟨h, rfl⟩
  | check | reread | addFinalizer | wait | waitFail | execute | executeNext | batch | batchFail
  | succeed | release => cases h
  | read fr =>
    refine ⟨?_, rfl⟩
    cases hserver with
    | read hread => exact hended.mono hdesc fr (hread.current hfresh)
  | readFails | flowFails => exact ⟨trivial, rfl⟩
  | trigger y hterm | list y hterm | delete y hterm => exact ⟨hterm, rfl⟩
  | @flow fr _ hcont | @flowMissing fr _ hcont =>
    have hactive := hcont.phase
    rw [show fr.status.phase.terminal = true from h] at hactive
    cases hactive
  | start t y hmay | inline y hmay | inlineFail y hmay => cases hmay <;> cases h
  | @finish σ fr phase reason msg t since y hmay =>
    cases hmay with
    | cancel hrun _ =>
      have hterm : fr.status.phase.terminal = true := h
      rw [hrun] at hterm
      cases hterm
    | orphaned | admitted | failing => cases h

theorem reconcile_retired (hfresh : P.stale = false) (hwf : w₀.store.WF flowRunKind)
    (hended : Ended w₀ key)
    (hrun : Exec (Server r P) w₀ (reconcile r key) tr w' res) : executions tr = [] := by
  obtain ⟨_, _, ⟨_, hnil⟩, _⟩ := reconcile_along hwf hrun
    (fun tr _ σ => Retired σ ∧ executions tr = []) ⟨trivial, rfl⟩ (by
      intro tr w σ q x w' σ' hal ⟨hret, hnil⟩ hserver hmove
      obtain ⟨hnext, hnone⟩ := hret.step hfresh hended hal.descends hserver hmove
      exact ⟨hnext, by rw [executions_append, hnone, hnil]; rfl⟩)
  exact hnil

end Retirement

end KubeZap
