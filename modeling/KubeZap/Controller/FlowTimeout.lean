import KubeZap.Controller.Order

/-! # What bounds a run in time

`FlowSpec.Timeout` is made into a context anew in every call, so it bounds one wave
and not the run: a call that starts after `StartTime + Timeout` dispatches as any
other does. It ends the FlowRun without executing a step only where something else
makes it, and what that can be is said by `Doomed`.
-/

namespace KubeZap

open Foundation
open Foundation.Versioned (WriteError)

/-! ## What ends a FlowRun -/

/-- The operator's own limit has passed at `t`. -/
def Overdue (r : FlowRunReconciler) (t : Time) (fr : FlowRun) : Prop :=
  0 < r.executionTimeout ∧ ∃ start ∈ fr.status.startTime, r.executionTimeout < t - start

instance (r : FlowRunReconciler) (t : Time) (fr : FlowRun) : Decidable (Overdue r t fr) :=
  inferInstanceAs (Decidable (_ ∧ _))

/-- A call at `t` cannot dispatch anything: it is past the operator's limit, the
parameters of the Flow have no value, or nothing is left to do. -/
def Spent (r : FlowRunReconciler) (flow : Flow) (t : Time) (fr : FlowRun) : Prop :=
  Overdue r t fr ∨
    (resolveFlowParams r.lib flow.spec.params fr.spec.params (rebuildStepResults fr.status.steps)
      fr.spec.triggerData).isOk = false ∨
    allTerminal flow fr.status.steps = true ∨
    collectWave flow fr.status.steps = [] ∧ anyRunning flow fr.status.steps = false

/-- A Running FlowRun that a call at `t` ends: it is to be stopped, or spent. -/
def Doomed (r : FlowRunReconciler) (flow : Flow) (t : Time) (fr : FlowRun) : Prop :=
  fr.status.phase = .running ∧ (stopRequested fr = true ∨ Spent r flow t fr)

instance (r : FlowRunReconciler) (flow : Flow) (t : Time) (fr : FlowRun) :
    Decidable (Doomed r flow t fr) :=
  inferInstanceAs (Decidable (_ ∧ (_ ∨ (_ ∨ _ ∨ _ ∨ _ ∧ _))))

section Conditions

variable {r : FlowRunReconciler} {flow : Flow} {fr : FlowRun} {t₀ : Time} {checked : Option Time}

theorem Live.not_overdue (h : Live r fr checked) (hchecked : ∀ t ∈ checked, t₀ ≤ t) :
    ¬ Overdue r t₀ fr := by
  rintro ⟨hlimit, start, hstart, hold⟩
  have hsome : fr.status.startTime ≠ none := by
    rw [Option.mem_def.mp hstart]
    simp
  obtain ⟨t, ht, hwithin⟩ := h hlimit hsome
  have hage := hwithin start hstart
  have hlater := hchecked t ht
  have : t₀ - start ≤ t - start := Int.sub_le_sub_right hlater start
  exact absurd (Int.lt_of_lt_of_le hold this) (Int.not_lt.mpr hage)

theorem Spent.idle {d : Dispatch} (h : Spent r flow t₀ fr) (hd : Dispatching r flow fr checked d)
    (hchecked : ∀ t ∈ checked, t₀ ≤ t) :
    collectWave flow fr.status.steps = [] ∧ anyRunning flow fr.status.steps = false := by
  rcases h with hover | hparams | hall | hidle
  · exact absurd hover (hd.live.not_overdue hchecked)
  · rw [← hd.data.stepResults_eq, hd.data.params_eq] at hparams
    cases hparams
  · rw [hd.unfinished] at hall
    cases hall
  · exact hidle

theorem Spent.not_mem {d : Dispatch} {step : FlowStep} (h : Spent r flow t₀ fr)
    (hd : Dispatching r flow fr checked d) (hchecked : ∀ t ∈ checked, t₀ ≤ t) :
    step ∉ collectWave flow fr.status.steps := by
  rw [(h.idle hd hchecked).1]
  simp

end Conditions

/-! ## One call -/

def Policy.Serves (P : Policy) (flows : NamespacedName → Flow) : Prop :=
  ∀ k x, P.flow k x → x = .ok (flows k)

/-- The stages of a call that started at `t₀` on a doomed FlowRun. -/
def Ending (r : FlowRunReconciler) (flows : NamespacedName → Flow) (t₀ : Time)
    (key : NamespacedName) (w : World) : Stage → Prop
  | .idle => ∃ o, w.store.current key = some o ∧ Doomed r (flowOf flows key o.spec) t₀ o
  | .loaded fr => Doomed r (flowOf flows key fr.spec) t₀ fr
  | .admitted fr flow checked => fr.status.phase = .running ∧ Spent r flow t₀ fr ∧
      ∀ t ∈ checked, t₀ ≤ t
  | .releasing _ | .closed _ => Ended w key
  | .orphaned _ | .entering _ _ | .executing _ _ _ _ | .inlined _ _ | .failing _ | .scanning _
  | .scanReleasing _ _ => False

section Call

variable {r : FlowRunReconciler} {P : Policy} {flows : NamespacedName → Flow}
variable {key : NamespacedName} {t₀ : Time} {w₀ w w' : World} {tr : List (Event Reply)}

theorem Server.clock_le {q : Req} {x : Reply q} (h : Server r P w q x w') : w.clock ≤ w'.clock := by
  cases h with
  | now ht => exact ht
  | executeStep _ ht => exact ht
  | update hw | updateStatus hw => cases hw <;> exact Int.le_refl _
  | _ => exact Int.le_refl _

theorem Writes.ends {fr sent : FlowRun} {x : Except WriteError FlowRun} {next : FlowRun → FlowRun}
    (hnone : P.faults = .none) (hwf : w.store.WF flowRunKind)
    (hw : Writes P flowRunKind.mergeStatus w sent x w') (hfr : Fresh w key fr)
    (hsame : SameVersion fr sent) (hterm : sent.status.phase.terminal = true) :
    Ending r flows t₀ key w' (.after x fun o => .releasing (next o)) := by
  obtain ⟨answer, rfl⟩ := hw.ok_of_fresh hnone hfr hsame
  obtain ⟨o, ho, hstatus⟩ := hw.stores_status hwf (hsame.name.trans hfr.1)
  apply ended_of_current ho
  rw [hstatus]
  exact hterm

theorem Ending.mono {σ : Stage} (h : Ending r flows t₀ key w σ) (hs : w'.store = w.store) :
    Ending r flows t₀ key w' σ := by
  cases σ with
  | idle =>
    obtain ⟨o, ho, hdoomed⟩ := h
    exact ⟨o, by rw [hs]; exact ho, hdoomed⟩
  | releasing | closed => exact fun o ho => h o (by rw [← hs]; exact ho)
  | _ => exact h

theorem Ending.finish {σ : Stage} {fr : FlowRun} {phase : FlowRunPhase}
    (h : Ending r flows t₀ key w σ) (hmay : MayFinish σ fr phase) (hsync : Synced w key σ) :
    Fresh w key fr ∧ phase.terminal = true := by
  cases hmay with
  | cancel hrun _ => exact ⟨hsync.2 (by rw [hrun]; rfl), rfl⟩
  | orphaned | failing => cases h
  | admitted _ => exact ⟨hsync, rfl⟩

theorem not_ending_of_mayInline {σ : Stage} {fr : FlowRun} {d : Dispatch}
    (hmay : MayInline r σ fr d) : ¬ Ending r flows t₀ key w σ := by
  intro h
  cases hmay with
  | admitted hd hready =>
    obtain ⟨step, hstep⟩ := hready
    refine h.2.1.not_mem hd h.2.2 (List.mem_filter.mpr ⟨hstep.mem, ?_⟩)
    simp [inWave, hstep.deps, hstep.fresh]
  | inlined => cases h

theorem Ending.not_readFails {e : ReadError} (hfresh : P.stale = false) (hnone : P.faults = .none)
    (h : Ending r flows t₀ key w .idle) : ¬ Server r P w (.getFlowRun key) (.error e) w' := by
  obtain ⟨o, ho, _⟩ := h
  intro hserver
  cases hserver with
  | readMissing msg hmissing =>
    rcases hmissing with hstale | hgone
    · rw [hfresh] at hstale
      cases hstale
    · rw [ho] at hgone
      cases hgone
  | readFails msg hfaults => exact hfaults hnone

theorem Policy.Serves.answer {k : NamespacedName} {x : Except ReadError Flow}
    (hserves : P.Serves flows) (hserver : Server r P w (.getFlow k) x w') : x = .ok (flows k) := by
  cases hserver with
  | flow hread => exact hserves _ _ hread

theorem Ending.step {σ σ' : Stage} {q : Req} {x : Reply q} (hfresh : P.stale = false)
    (hnone : P.faults = .none) (hserves : P.Serves flows) (hal : Along r P w₀ key tr w σ)
    (hclock : t₀ ≤ w.clock) (h : Ending r flows t₀ key w σ) (hserver : Server r P w q x w')
    (hmove : Moves r key σ q x σ') : Ending r flows t₀ key w' σ' ∧ execution ⟨q, x⟩ = none := by
  have hsync := hal.synced hfresh
  have hdesc : Descends w w' := (hal.held.refines hal.wf hserver (.call hmove)).descends (.refl w)
  cases hmove with
  | now σ t => exact ⟨h.mono (hserver.store_eq rfl), rfl⟩
  | @check fr flow checked t _ =>
    obtain ⟨hrun, hspent, _⟩ := h
    refine ⟨⟨hrun, hspent, ?_⟩, rfl⟩
    cases hserver with
    | now ht =>
      intro t' ht'
      rw [← Option.some.inj ht']
      exact Int.le_trans hclock ht
  | read fr =>
    obtain ⟨o, ho, hdoomed⟩ := h
    cases hserver with
    | read hread =>
      rw [Option.some.inj (ho.symm.trans (hread.current hfresh))] at hdoomed
      exact ⟨hdoomed, rfl⟩
  | readFails e result => exact absurd hserver (h.not_readFails hfresh hnone)
  | reread | executeNext | batch | batchFail => cases h
  | trigger y hterm | list y hterm | delete y hterm => rw [h.1] at hterm; cases hterm
  | @flow fr flow hcont =>
    obtain ⟨hrun, hstop | hspent⟩ := h
    · rw [hcont.wanted hrun] at hstop
      cases hstop
    · rw [Except.ok.inj (hserves.answer hserver), hsync.1]
      exact ⟨⟨hrun, hspent, by simp⟩, rfl⟩
  | flowMissing | flowFails => cases hserves.answer hserver
  | addFinalizer y hphase => exact absurd h.1 hphase
  | start t y hmay =>
    cases hmay with
    | admitted hphase => exact absurd h.1 hphase
    | entering => cases h
  | inline y hmay | inlineFail y hmay => exact absurd h (not_ending_of_mayInline hmay)
  | wait y result hd hentry | waitFail y hd hentry =>
    exact absurd hentry.mem (h.2.1.not_mem hd h.2.2)
  | execute ret hd _ hwave _ _ _ =>
    rw [(h.2.1.idle hd h.2.2).1] at hwave
    cases hwave
  | @finish σ fr phase reason msg t since y hmay =>
    obtain ⟨hfr, hterm⟩ := h.finish hmay hsync
    refine ⟨hserver.updateStatus_inv.ends hnone hal.wf hfr
      (sameVersion_finish fr phase reason msg t since) ?_, rfl⟩
    rw [(finish_status fr phase reason msg t since).1]
    exact hterm
  | @succeed fr flow checked t since y _ _ _ =>
    refine ⟨hserver.updateStatus_inv.ends hnone hal.wf hsync (sameVersion_succeed fr t since) ?_,
      rfl⟩
    rw [(succeed_status fr t since).1]
    rfl
  | release y => exact ⟨Ended.mono h hdesc, rfl⟩

theorem reconcile_doomed {o : FlowRun} {result : Result} (hfresh : P.stale = false)
    (hnone : P.faults = .none) (hserves : P.Serves flows) (hwf : w₀.store.WF flowRunKind)
    (ho : w₀.store.current key = some o) (hdoomed : Doomed r (flowOf flows key o.spec) w₀.clock o)
    (hrun : Exec (Server r P) w₀ (reconcile r key) tr w' (some result)) :
    executions tr = [] ∧ Ended w' key := by
  obtain ⟨σ, hal, ⟨_, hending, hnil⟩, hret⟩ := reconcile_along hwf hrun
    (fun tr w σ => w₀.clock ≤ w.clock ∧ Ending r flows w₀.clock key w σ ∧ executions tr = [])
    ⟨Int.le_refl _, ⟨o, ho, hdoomed⟩, rfl⟩ (by
      intro tr w σ q x w' σ' hal ⟨hclock, hending, hnil⟩ hserver hmove
      obtain ⟨hnext, hsilent⟩ :=
        hending.step hfresh hnone hserves hal hclock hserver hmove
      refine ⟨Int.le_trans hclock hserver.clock_le, hnext, ?_⟩
      rw [executions_append, hsilent, hnil]
      rfl)
  refine ⟨hnil, ?_⟩
  cases hret result rfl with
  | closed result => exact hending
  | collected result hterm =>
    rw [hending.1] at hterm
    cases hterm
  | pending hd _ hactive =>
    rw [(hending.2.1.idle hd hending.2.2).2] at hactive
    cases hactive
  | unreachable _ => cases hending

end Call

/-! ## Every history -/

/-- At `t` more time has passed since the start of the FlowRun than its Flow allows. -/
def Late (flow : Flow) (t : Time) (fr : FlowRun) : Prop :=
  ∃ start ∈ fr.status.startTime, ∃ timeout ∈ flow.spec.timeout, 0 < timeout ∧ start + timeout < t

instance (flow : Flow) (t : Time) (fr : FlowRun) : Decidable (Late flow t fr) :=
  inferInstanceAs (Decidable (∃ start ∈ fr.status.startTime, ∃ timeout ∈ flow.spec.timeout,
    0 < timeout ∧ start + timeout < t))

/-- In every history of complete calls with fresh reads and writes that succeed, in
which each late call finds a FlowRun that has ended or that it ends for another
reason, the late calls execute nothing and leave the FlowRun ended. -/
theorem late_calls_end_run {r : FlowRunReconciler} {P : Policy} {flows : NamespacedName → Flow}
    {w w' : World} {cs : List Call} (hfresh : P.stale = false) (hnone : P.faults = .none)
    (hserves : P.Serves flows) (hwf : w.store.WF flowRunKind) (hhist : History r P w cs w')
    (hcomplete : ∀ c ∈ cs, c.result ≠ none) (hcond : ∀ c ∈ cs, ∀ o ∈ c.before.store.current c.key,
      Late (flowOf flows c.key o.spec) c.before.clock o →
      o.status.phase.terminal = true ∨ Doomed r (flowOf flows c.key o.spec) c.before.clock o) :
    ∀ c ∈ cs, ∀ o ∈ c.before.store.current c.key,
      Late (flowOf flows c.key o.spec) c.before.clock o →
      executions c.trace = [] ∧ Ended c.after c.key := by
  refine hhist.each (fun _ => True) hwf trivial (fun c hc => And.intro (hcomplete c hc) (hcond c hc))
    (fun _ _ _ _ _ => trivial) ?_
  rintro ⟨key, w, tr, w', res⟩ hwf _ hrun ⟨hcomplete, hcond⟩
  refine ⟨trivial, fun o ho hlate => ?_⟩
  obtain ⟨result, rfl⟩ : ∃ result, res = some result := Option.ne_none_iff_exists'.mp hcomplete
  rcases hcond o ho hlate with hterm | hdoomed
  · have hended : Ended w key := ended_of_current ho hterm
    exact ⟨reconcile_retired hfresh hwf hended hrun,
      hended.mono (reconcile_descends hwf hrun).2⟩
  · exact reconcile_doomed hfresh hnone hserves hwf ho hdoomed hrun

def timedChain : Flow := ⟨{ chainFlow.spec with timeout := some second }⟩

def timedScript : Script := { chainScript with flows := fun _ => .ok timedChain }

theorem timedScript_within : timedScript.Within (.ofFlow .none timedChain) where
  fresh := rfl
  flows _ := rfl
  rejects _ h := by cases h

theorem ofFlow_serves (faults : Faults) (flow : Flow) :
    (Policy.ofFlow faults flow).Serves fun _ => flow :=
  fun _ _ h => h

def afterAnHour (w : World) : Call :=
  timedScript.call plainReconciler ⟨"default", "chain-1"⟩ { w with clock := 60 * minute }

def timedFirst : Call :=
  timedScript.call plainReconciler ⟨"default", "chain-1"⟩ (.single chainRun 0)

def timedSecond : Call :=
  timedScript.call plainReconciler ⟨"default", "chain-1"⟩ timedFirst.after

theorem afterAnHour_history {w : World} (h : w.clock = 0) :
    History plainReconciler (.ofFlow .none timedChain) w [afterAnHour w] (afterAnHour w).after :=
  .users (.time (by rw [h]; decide)) (Script.history_call timedScript_within (.nil _))

def timedLast : Call := afterAnHour timedSecond.after

theorem late_calls_end_run_done :
    (∃ o ∈ timedLast.before.store.current timedLast.key,
        Late timedChain timedLast.before.clock o) ∧
      executions timedLast.trace = [] ∧ Ended timedLast.after timedLast.key := by
  have hhist : History plainReconciler (.ofFlow .none timedChain) (.single chainRun 0)
      [timedFirst, timedSecond, timedLast] timedLast.after :=
    Script.history_call timedScript_within (Script.history_call timedScript_within
      (afterAnHour_history (by decide +kernel)))
  have hlate : ∃ o ∈ timedLast.before.store.current timedLast.key,
      Late timedChain timedLast.before.clock o := by
    decide +kernel
  have hbound := late_calls_end_run rfl rfl (ofFlow_serves _ _) (World.single_wf rfl) hhist
    (by decide +kernel) (by decide +kernel) timedLast (by simp)
  obtain ⟨o, ho, hl⟩ := hlate
  exact ⟨⟨o, ho, hl⟩, hbound o ho hl⟩

/-- The FlowRun has one second to run, and an hour later its second step is executed. -/
theorem late_call_executes :
    ∃ (P : Policy) (flows : NamespacedName → Flow) (w w' : World) (cs : List Call),
      P.stale = false ∧ P.faults = .none ∧ P.Serves flows ∧ w.store.WF flowRunKind ∧
      History plainReconciler P w cs w' ∧ (∀ c ∈ cs, c.result ≠ none) ∧
      ∃ c ∈ cs, ∃ o ∈ c.before.store.current c.key,
        Late (flowOf flows c.key o.spec) c.before.clock o ∧ executions c.trace ≠ [] := by
  have hhist : History plainReconciler (.ofFlow .none timedChain) (.single chainRun 0)
      [timedFirst, afterAnHour timedFirst.after] (afterAnHour timedFirst.after).after :=
    Script.history_call timedScript_within (afterAnHour_history (by decide +kernel))
  refine ⟨_, fun _ => timedChain, _, _, _, rfl, rfl, ofFlow_serves _ _, World.single_wf rfl,
    hhist, by decide +kernel, afterAnHour timedFirst.after, by simp, ?_⟩
  decide +kernel

end KubeZap
