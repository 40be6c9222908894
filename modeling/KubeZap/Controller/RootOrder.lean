import KubeZap.Controller.Calls
import KubeZap.Controller.Order

/-! # Steps without dependencies

The documentation says that steps without `runAfter` run in the order in which they are declared,
each waiting for the one before. The controller knows no order among them: those that are ready
together are executed together. Only where a call does not find two of them ready is an
earlier one over when a later one is executed.
-/

namespace KubeZap

open Foundation
open Foundation.Versioned (Store WriteError)

/-! ## Entries that have not ended -/

/-- Every entry that has not ended is that of a wait step whose dependencies are met. -/
def Waits (flow : Flow) (xs : List StepRunStatus) : Prop :=
  ∀ e ∈ xs, e.phase.terminal = false → e.phase = .waiting ∧ ∃ step ∈ flow.spec.steps,
    step.name = e.name ∧ step.action.type = .wait ∧
    dependenciesMet step xs flow.spec.steps (flow.spec.failurePolicy == .continuing) = true

section Entries

variable {r : FlowRunReconciler} {flow : Flow} {spec : FlowRunSpec} {step : FlowStep}
variable {xs ys : List StepRunStatus}

theorem waits_nil : Waits flow [] := fun _ he => by cases he

theorem dependenciesMet_mono (hkeep : KeepsTerminal xs ys)
    (h : dependenciesMet step xs flow.spec.steps (flow.spec.failurePolicy == .continuing) = true) :
    dependenciesMet step ys flow.spec.steps (flow.spec.failurePolicy == .continuing) = true := by
  refine dependenciesMet_iff.mpr ?_
  intro dep hdep
  obtain ⟨s, hs, hphase⟩ := dependencyMet_iff.mp (dependenciesMet_iff.mp h dep hdep)
  have hterminal : s.phase.terminal = true := by
    rcases hphase with hp | hp | ⟨hp, -⟩ <;> rw [hp] <;> rfl
  obtain ⟨s', hs', hsame, -⟩ := hkeep.find hs hterminal
  refine dependencyMet_iff.mpr ⟨s', hs', ?_⟩
  rw [hsame]
  exact hphase

theorem Waits.write {es : List StepRunStatus} (h : Waits flow xs)
    (hkeep : KeepsTerminal xs (es.foldl upsertStepStatus xs))
    (hes : ∀ e ∈ es, e.phase.terminal = false → e.phase = .waiting ∧ ∃ step ∈ flow.spec.steps,
      step.name = e.name ∧ step.action.type = .wait ∧
      dependenciesMet step xs flow.spec.steps (flow.spec.failurePolicy == .continuing) = true) :
    Waits flow (es.foldl upsertStepStatus xs) := by
  intro e he hopen
  have hold : e.phase = .waiting ∧ ∃ step ∈ flow.spec.steps,
      step.name = e.name ∧ step.action.type = .wait ∧
      dependenciesMet step xs flow.spec.steps (flow.spec.failurePolicy == .continuing) = true := by
    rcases mem_foldl_upsert he with he | he
    · exact hes e he hopen
    · exact h e he hopen
  obtain ⟨hphase, step, hstep, hname, hwait, hdeps⟩ := hold
  exact ⟨hphase, step, hstep, hname, hwait, dependenciesMet_mono hkeep hdeps⟩

theorem Waits.write_ended {e : StepRunStatus} (h : Waits flow xs)
    (hkeep : KeepsTerminal xs (upsertStepStatus xs e)) (hended : e.phase.terminal = true) :
    Waits flow (upsertStepStatus xs e) := by
  refine @Waits.write flow xs [e] h hkeep ?_
  intro e' he' hopen
  rw [List.mem_singleton.mp he', hended] at hopen
  cases hopen

theorem Inlined.waits {d : Dispatch} (h : Inlined r d spec xs ys) (hwaits : Waits flow xs) :
    Waits flow ys := by
  induction h with
  | refl => exact hwaits
  | tail _ hstep ih =>
    have hkeep := hstep.keeps
    cases hstep with
    | skip _ _ hphase | fail _ _ hphase => exact ih.write_ended hkeep (by rw [hphase]; rfl)

theorem Progress.waits (h : Progress r flow spec xs ys) (hwaits : Waits flow xs) :
    Waits flow ys := by
  have hkeep := h.keeps
  cases h with
  | inline _ hinl => exact hinl.waits hwaits
  | inlineFail _ hinl hready hname hphase =>
    exact (hinl.waits hwaits).write_ended
      (.upsert_of_unprocessed (by rw [hname]; exact hready.fresh)) (by rw [hphase]; rfl)
  | @wait step e hentry =>
    refine @Waits.write flow xs [e] hwaits hkeep ?_
    intro e' he' hopen
    obtain rfl := List.mem_singleton.mp he'
    have hphase : e'.phase = .waiting := by
      rcases hentry.phase with hp | hp | hp
      · exact hp
      all_goals
        rw [hp] at hopen
        cases hopen
    obtain ⟨hmem, hin⟩ := List.mem_filter.mp hentry.mem
    rw [inWave, Bool.and_eq_true] at hin
    exact ⟨hphase, step, hmem, hentry.name_eq.symm, hentry.wait, hin.1⟩
  | @wave outs _ hok hreach _ =>
    rw [waveStatuses_eq] at hkeep ⊢
    refine hwaits.write hkeep ?_
    intro e he hopen
    obtain ⟨o, ho, rfl⟩ := List.mem_map.mp he
    obtain ⟨s, _, _, hphase, hfinal⟩ := @waveEntry_final r.lib flow o (hok o ho) (hreach o ho)
    rw [hphase] at hopen
    rcases hfinal with hp | hp <;> rw [hp] at hopen <;> cases hopen

theorem Waits.encode (h : Waits flow xs) : Waits flow (xs.map StepRunStatus.encode) := by
  intro e he hopen
  obtain ⟨e₀, he₀, rfl⟩ := List.mem_map.mp he
  obtain ⟨hphase, step, hstep, hname, hwait, hdeps⟩ := h e₀ he₀ hopen
  exact ⟨hphase, step, hstep, hname, hwait, dependenciesMet_mono (.encode xs) hdeps⟩

theorem stepTerminal_of_not_mem_collectWave (hwaits : Waits flow xs)
    (hbarrier : ∀ s ∈ collectWave flow xs, s.action.type ≠ .wait) (hstep : step ∈ flow.spec.steps)
    (hroot : step.runAfter = []) (hout : step ∉ collectWave flow xs) :
    stepTerminal xs step.name = true := by
  have hdeps : dependenciesMet step xs flow.spec.steps
      (flow.spec.failurePolicy == .continuing) = true := by
    simp [dependenciesMet, hroot]
  have hstarted : processed xs step.name ≠ false := by
    intro hfresh
    refine hout (List.mem_filter.mpr ⟨hstep, ?_⟩)
    simp [inWave, hdeps, hfresh]
  cases hfind : findStepStatus xs step.name with
  | none => exact absurd (processed_eq_false.mpr (by simp [hfind])) hstarted
  | some e =>
    simp only [stepTerminal, hfind]
    by_contra hopen
    obtain ⟨hphase, u, hu, hname, hwait, hmet⟩ :=
      hwaits e (mem_of_findStepStatus hfind) (by simpa using hopen)
    -- the wait step whose entry it is would be in the wave
    refine hbarrier u (List.mem_filter.mpr ⟨hu, ?_⟩) hwait
    rw [name_of_findStepStatus hfind] at hname
    simp [inWave, hmet, hwait, hname, hfind, hphase]

end Entries

/-! ## Every version -/

def Ever (I : NamespacedName → FlowRunSpec → FlowRunStatus → Prop) (w : World) : Prop :=
  ∀ o ∈ w.store.versions, I o.metadata.name o.spec o.status

section Versions

variable {r : FlowRunReconciler} {P : Policy} {key : NamespacedName} {w₀ w w' : World}
variable {I : NamespacedName → FlowRunSpec → FlowRunStatus → Prop}

theorem Ever.touched (h : Ever I w) (hwf : w.store.WF flowRunKind) (ht : Touched w w') :
    Ever I w' := by
  intro o ho
  cases ht with
  | same hs =>
    rw [hs] at ho
    exact h o ho
  | @commit stored new hcur hname hkept hs =>
    rw [hs] at ho
    rcases Store.mem_versions_commit ho with ho | ⟨n, rfl⟩
    · exact h o ho
    · have hstored := h stored (hwf.known _ _ hcur).1
      change I new.metadata.name new.spec new.status
      rw [hname, hkept.spec, hkept.status]
      exact hstored

theorem Ever.accepted {merge : FlowRun → FlowRun → FlowRun} {sent stored : FlowRun}
    (h : Ever I w) (hacc : Accepted merge w sent stored w')
    (hnew : I (merge stored sent).metadata.name (merge stored sent).spec
      (merge stored sent).status) : Ever I w' := by
  intro o ho
  rw [hacc.store] at ho
  rcases Store.mem_versions_commit ho with ho | ⟨n, rfl⟩
  · exact h o ho
  · exact hnew

theorem Ever.step {tr : List (Event Reply)} {σ σ' : Stage} {q : Req} {x : Reply q}
    (hI : Preserved r P I) (h : Ever I w) (hal : Along r P w₀ key tr w σ)
    (hserver : Server r P w q x w') (hmove : Moves r key σ q x σ') : Ever I w' := by
  cases hserver.effect hal.wf with
  | touched ht => exact h.touched hal.wf ht
  | @update sent stored hq hacc =>
    subst hq
    have hholds := (AnyMoves.update_seen (.call hmove) hal.held).stored hal.wf hacc.current hacc.version
    refine h.accepted hacc ?_
    have hstored := h stored (hal.wf.known _ _ hacc.current).1
    change I stored.metadata.name sent.spec stored.status
    rw [hholds.spec]
    exact hstored
  | @updateStatus sent stored hq hacc =>
    subst hq
    obtain ⟨fr, hseen, hsame, htrans, _⟩ :=
      @AnyMoves.updateStatus_held r P w w' _ _ _ _ (.call hmove) hal.held
    refine h.accepted hacc ?_
    have hstored := h stored (hal.wf.known _ _ hacc.current).1
    rw [hacc.name_eq] at hstored
    change I stored.metadata.name stored.spec sent.status.encode
    rw [hacc.name_eq]
    exact hI _ _ _ _ hstored (hseen.transition hal.wf hsame hacc htrans)

end Versions

/-- A FlowRun has no entries before it is started, and then none that is open but of wait steps. -/
def Lawful (flows : NamespacedName → Flow) (name : NamespacedName) (spec : FlowRunSpec)
    (status : FlowRunStatus) : Prop :=
  Waits (flowOf flows name spec) status.steps ∧
    (status.phase.terminal = false → status.phase ≠ .running → status.steps = [])

theorem lawful_preserved {r : FlowRunReconciler} {P : Policy} {flows : NamespacedName → Flow}
    (hflows : P.Unedited flows) : Preserved r P (Lawful flows) := by
  rintro k spec old new ⟨hwaits, -⟩ htrans
  cases htrans with
  | start _ _ hrun hsteps =>
    refine ⟨?_, fun _ hne => absurd hrun hne⟩
    exact Waits.encode (by rw [hsteps]; exact hwaits)
  | progress hflow _ hrun _ hprog =>
    rw [hflows _ _ hflow] at hprog
    exact ⟨(hprog.waits hwaits).encode, fun _ hne => absurd hrun hne⟩
  | finish _ hphase _ _ hsteps =>
    refine ⟨Waits.encode (by rw [hsteps]; exact hwaits), ?_⟩
    intro hopen
    rw [FlowRunStatus.encode_phase] at hopen
    rcases hphase with hp | hp <;> rw [hp] at hopen <;> cases hopen
  | succeed _ _ _ hphase _ hsteps =>
    refine ⟨Waits.encode (by rw [hsteps]; exact hwaits), ?_⟩
    intro hopen
    rw [FlowRunStatus.encode_phase, hphase] at hopen
    cases hopen

/-! ## One call -/

def readOf : Event Reply → Option FlowRun
  | ⟨.getFlowRun _, .ok fr⟩ => some fr
  | _ => none

def firstRead (tr : List (Event Reply)) : Option FlowRun := tr.findSome? readOf

def Call.read (c : Call) : Option FlowRun := firstRead c.trace

/-- Two steps without dependencies are ready at once and nothing is to be done before them: no
step is to be skipped or failed, and none in the wave waits. -/
def Contended (r : FlowRunReconciler) (flow : Flow) (fr : FlowRun) : Prop :=
  (∃ d, DispatchOf r flow fr d ∧ ∀ step ∈ flow.spec.steps, inlineVerdict r d fr step = .pass) ∧
    (∀ step ∈ collectWave flow fr.status.steps, step.action.type ≠ .wait) ∧
    ∃ s t, List.Sublist [s, t] flow.spec.steps ∧ s.runAfter = [] ∧ t.runAfter = [] ∧
      s ∈ collectWave flow fr.status.steps ∧ t ∈ collectWave flow fr.status.steps

/-- In the FlowRun that was read, stored before the call, the steps that are declared before `t` are
over, if these and `t` have no dependencies. -/
def AfterRoots (flows : NamespacedName → Flow) (key : NamespacedName) (w : World)
    (read : Option FlowRun) (t : FlowStep) : Prop :=
  ∃ fr, read = some fr ∧ fr ∈ w.store.versions ∧
    ∀ s, List.Sublist [s, t] (flowOf flows key fr.spec).spec.steps → s.runAfter = [] →
      t.runAfter = [] → stepTerminal fr.status.steps s.name = true

/-- The FlowRun in memory has the entries of the one that was read. -/
structure FromRead (flows : NamespacedName → Flow) (key : NamespacedName) (w : World)
    (read : Option FlowRun) (fr : FlowRun) : Prop where
  lawful : Lawful flows key fr.spec fr.status
  read : ∃ fr₀, read = some fr₀ ∧ fr₀ ∈ w.store.versions ∧ fr.spec = fr₀.spec ∧
    fr.status.steps = fr₀.status.steps

/-- What a call knows of the FlowRun that it has read in `w₀`. -/
def Rooted (flows : NamespacedName → Flow) (key : NamespacedName) (w₀ w : World)
    (read : Option FlowRun) : Stage → Prop
  | .idle => w.store = w₀.store ∧ read = none
  | .loaded fr | .admitted fr _ _ | .entering fr _ => FromRead flows key w₀ read fr
  | .executing _ _ _ rest => ∀ t ∈ rest, AfterRoots flows key w₀ read t
  | .orphaned _ | .inlined _ _ | .failing _ | .releasing _ | .closed _ | .scanning _
  | .scanReleasing _ _ => True

section Call

variable {r : FlowRunReconciler} {P : Policy} {flows : NamespacedName → Flow}
variable {key : NamespacedName} {w₀ w w' : World} {read : Option FlowRun}
variable {tr : List (Event Reply)} {σ σ' : Stage} {q : Req} {x : Reply q}

theorem firstRead_append {fr : FlowRun} (h : firstRead tr = some fr) (e : Event Reply) :
    firstRead (tr ++ [e]) = some fr := by
  rw [firstRead, List.findSome?_append]
  rw [firstRead] at h
  rw [h]
  rfl

theorem firstRead_silent (hquiet : readOf ⟨q, x⟩ = none) :
    firstRead (tr ++ [⟨q, x⟩]) = firstRead tr := by
  rw [firstRead, List.findSome?_append]
  simp [hquiet, firstRead]

theorem afterRoots_of_wave {flow : Flow} {fr : FlowRun} {d : Dispatch} {t : FlowStep}
    (hfrom : FromRead flows key w₀ read fr) (hflow : flow = flowOf flows key fr.spec)
    (hdata : DispatchOf r flow fr d)
    (hpassed : ∀ s ∈ flow.spec.steps, inlineVerdict r d fr s = .pass)
    (hbarrier : ∀ s ∈ collectWave flow fr.status.steps, s.action.type ≠ .wait)
    (hcond : ∀ fr₀, read = some fr₀ → ¬ Contended r (flowOf flows key fr₀.spec) fr₀)
    (ht : t ∈ collectWave flow fr.status.steps) : AfterRoots flows key w₀ read t := by
  obtain ⟨fr₀, hread, hstored, hspec, hsteps⟩ := hfrom.read
  have hflow₀ : flow = flowOf flows key fr₀.spec := by rw [hflow, hspec]
  refine ⟨fr₀, hread, hstored, ?_⟩
  rw [← hflow₀]
  intro s hbefore hs hroot
  have hmem : s ∈ flow.spec.steps := hbefore.subset List.mem_cons_self
  have hwaits : Waits flow fr.status.steps := by
    rw [hflow]
    exact hfrom.lawful.1
  rw [← hsteps]
  refine stepTerminal_of_not_mem_collectWave hwaits hbarrier hmem hs ?_
  intro hin
  refine hcond fr₀ hread ?_
  rw [← hflow₀]
  refine ⟨⟨d, ⟨hdata.flow_eq, ?_, ?_⟩, ?_⟩, ?_, s, t, hbefore, hs, hroot, ?_, ?_⟩
  · rw [← hsteps]
    exact hdata.stepResults_eq
  · rw [← hspec]
    exact hdata.params_eq
  · intro step hstep
    have hverdict := hpassed step hstep
    unfold inlineVerdict at hverdict ⊢
    rw [← hsteps, ← hspec]
    exact hverdict
  · rw [← hsteps]
    exact hbarrier
  · rw [← hsteps]
    exact hin
  · rw [← hsteps]
    exact ht

theorem AfterRoots.append {t : FlowStep} (h : AfterRoots flows key w₀ (firstRead tr) t)
    (e : Event Reply) : AfterRoots flows key w₀ (firstRead (tr ++ [e])) t := by
  obtain ⟨fr, hread, hrest⟩ := h
  exact ⟨fr, firstRead_append hread e, hrest⟩

theorem Rooted.same (h : Rooted flows key w₀ w read σ) (hs : w'.store = w.store) :
    Rooted flows key w₀ w' read σ := by
  cases σ with
  | idle => exact ⟨hs.trans h.1, h.2⟩
  | _ => exact h

theorem Along.flow_eq {fr : FlowRun} {flow : Flow} {checked : Option Time}
    (hflows : P.Unedited flows) (hal : Along r P w₀ key tr w (.admitted fr flow checked)) :
    flow = flowOf flows key fr.spec := by
  have hname : fr.metadata.name = key := hal.named
  rw [← hname]
  exact hflows _ _ hal.held.flow

theorem FromRead.started {fr fr' : FlowRun} {t : Time} (h : FromRead flows key w₀ read fr)
    (hactive : fr.status.phase.terminal = false) (hne : fr.status.phase ≠ .running)
    (hstatus : fr'.status = (fr.start t).status.encode) (hspec : fr'.spec = fr.spec) :
    FromRead flows key w₀ read fr' := by
  have hnone : fr.status.steps = [] := h.lawful.2 hactive hne
  have hsteps : fr'.status.steps = [] := by
    rw [hstatus, FlowRunStatus.encode_steps]
    change fr.status.steps.map StepRunStatus.encode = []
    rw [hnone]
    rfl
  obtain ⟨fr₀, hread, hstored, hspec₀, hsteps₀⟩ := h.read
  refine ⟨⟨?_, fun _ _ => hsteps⟩, fr₀, hread, hstored, hspec.trans hspec₀, ?_⟩
  · rw [hsteps]
    exact waits_nil
  · rw [hsteps, ← hsteps₀, hnone]

theorem Rooted.silent (hever : Ever (Lawful flows) w) (hal : Along r P w₀ key tr w σ)
    (h : Rooted flows key w₀ w (firstRead tr) σ) (hserver : Server r P w q x w')
    (hmove : Moves r key σ q x σ') (hq : execution ⟨q, x⟩ = none) :
    Rooted flows key w₀ w' (firstRead (tr ++ [⟨q, x⟩])) σ' := by
  cases hmove with
  | now σ t =>
    rw [firstRead_silent rfl]
    cases hserver with
    | now _ => exact h.same rfl
  | check | trigger | list | delete | flow =>
    rw [firstRead_silent rfl]
    exact h
  | read fr =>
    obtain ⟨hstore, hnone⟩ := h
    cases hserver with
    | read hread =>
      have hmem := hread.mem_versions hal.wf
      refine ⟨hever fr hmem, fr, ?_, by rw [← hstore]; exact hmem, rfl, rfl⟩
      rw [firstRead] at hnone
      rw [firstRead, List.findSome?_append, hnone]
      rfl
  | readFails | reread | flowMissing | flowFails | release => trivial
  | @addFinalizer fr flow y hne =>
    rw [firstRead_silent rfl]
    refine Stage.after_of (fun _ => trivial) ?_
    rintro answer rfl
    have hfrom : FromRead flows key w₀ (firstRead tr) fr := h
    have hseen : Seen w fr.addFinalizer := hal.held.seen.imp fun _ hholds => hholds.addFinalizer
    obtain ⟨-, hstatus, hspec, -⟩ := hserver.update_inv.updated hal.wf hseen
    refine ⟨?_, ?_⟩
    · rw [hstatus, hspec]
      exact hfrom.lawful
    · rw [hstatus, hspec]
      exact hfrom.read
  | @start σ fr flow t y hmay =>
    rw [firstRead_silent rfl]
    obtain ⟨hwork, hne⟩ := hmay.held hal.held
    have hfrom : FromRead flows key w₀ (firstRead tr) fr := by
      cases hmay with
      | admitted | entering => exact h
    refine Stage.after_of (fun _ => trivial) ?_
    rintro answer rfl
    have hwritten := hserver.updateStatus_inv.written hal.wf hwork.seen (sameVersion_start fr t)
    exact hfrom.started hwork.active hne hwritten.status hwritten.spec
  | inline | inlineFail | wait | waitFail | batch | batchFail | finish | succeed =>
    exact Stage.after_of (fun _ => trivial) fun _ _ => trivial
  | execute | executeNext => cases hq

theorem Rooted.execute {c : StepCall} {ret : StepReturn} (hflows : P.Unedited flows)
    (hal : Along r P w₀ key tr w σ) (h : Rooted flows key w₀ w (firstRead tr) σ)
    (hcond : ∀ fr, firstRead tr = some fr → ¬ Contended r (flowOf flows key fr.spec) fr)
    (hmove : Moves r key σ (.executeStep c) ret σ') :
    AfterRoots flows key w₀ (firstRead tr) c.step ∧
      Rooted flows key w₀ w' (firstRead tr) σ' := by
  cases hmove with
  | @execute fr flow checked d step rest _ ret hd hpassed hwave hbarrier hstep _ =>
    have hall (t : FlowStep) (ht : t ∈ collectWave flow fr.status.steps) :
        AfterRoots flows key w₀ (firstRead tr) t :=
      afterRoots_of_wave h (hal.flow_eq hflows) hd.data hpassed
        (by rw [hwave]; exact hbarrier) hcond ht
    rw [hwave] at hall
    obtain ⟨hfirst, hrest⟩ := List.forall_mem_cons.mp hall
    exact ⟨by rw [hstep]; exact hfirst, hrest⟩
  | @executeNext fr flow outs step rest _ ret hstep _ =>
    obtain ⟨hfirst, hrest⟩ := List.forall_mem_cons.mp h
    exact ⟨by rw [hstep]; exact hfirst, hrest⟩

/-- What holds along a call that has not read two contending steps. -/
structure InRootOrder (flows : NamespacedName → Flow) (key : NamespacedName) (w₀ : World)
    (tr : List (Event Reply)) (w : World) (σ : Stage) : Prop where
  ever : Ever (Lawful flows) w
  rooted : Rooted flows key w₀ w (firstRead tr) σ
  done : ∀ o ∈ executions tr, AfterRoots flows key w₀ (firstRead tr) o.1

theorem InRootOrder.step (hflows : P.Unedited flows) (hal : Along r P w₀ key tr w σ)
    (h : InRootOrder flows key w₀ tr w σ)
    (hcond : ∀ fr, firstRead tr = some fr → ¬ Contended r (flowOf flows key fr.spec) fr)
    (hserver : Server r P w q x w') (hmove : Moves r key σ q x σ') :
    InRootOrder flows key w₀ (tr ++ [⟨q, x⟩]) w' σ' := by
  have hdone : ∀ o ∈ executions tr, AfterRoots flows key w₀ (firstRead (tr ++ [⟨q, x⟩])) o.1 :=
    fun o ho => (h.done o ho).append _
  have hever := h.ever.step (lawful_preserved hflows) hal hserver hmove
  cases hq : execution ⟨q, x⟩ with
  | none =>
    refine ⟨hever, h.rooted.silent h.ever hal hserver hmove hq, ?_⟩
    rw [executions_append, hq]
    simpa using hdone
  | some o =>
    cases q with
    | executeStep c =>
      have hexecuted : AfterRoots flows key w₀ (firstRead tr) c.step ∧
          Rooted flows key w₀ w' (firstRead tr) σ' :=
        h.rooted.execute hflows hal hcond hmove
      obtain ⟨hc, hrooted⟩ := hexecuted
      refine ⟨hever, ?_, ?_⟩
      · rw [firstRead_silent rfl]
        exact hrooted
      · rw [executions_append, hq]
        cases hq
        exact List.forall_mem_append.mpr
          ⟨hdone, List.forall_mem_singleton.mpr (hc.append _)⟩
    | _ => cases hq

end Call

/-! ## Every history -/

section Histories

variable {r : FlowRunReconciler} {P : Policy} {flows : NamespacedName → Flow}

end Histories

variable (when : List WhenExpression)

def draftFlow : Flow :=
  ⟨{ steps :=
      [{ name := "draft", when := when, action := { type := .transform, transform := some ⟨[]⟩ } },
       { name := "send", action := { type := .transform, transform := some ⟨[]⟩ } }] }⟩

def draftRun : FlowRun where
  metadata := { name := ⟨"default", "draft-1"⟩ }
  spec := { flowRef := "draft" }

def draftReconciler : FlowRunReconciler :=
  { plainReconciler with celEnv := some fun _ _ => .bool false }

def draftScript : Script where
  flows _ := .ok (draftFlow when)
  io _ := stepAnswers 0 fun _ _ => .unbuilt "not used"

theorem draftScript_within :
    (draftScript when).Within (.ofFlow .none (draftFlow when)) where
  fresh := rfl
  flows _ := rfl
  rejects _ h := by cases h

def draftFirst : Call :=
  (draftScript when).call draftReconciler ⟨"default", "draft-1"⟩ (.single draftRun 0)

def draftSecond : Call :=
  (draftScript when).call draftReconciler ⟨"default", "draft-1"⟩ (draftFirst when).after

theorem draft_history :
    History draftReconciler (.ofFlow .none (draftFlow when)) (.single draftRun 0)
      [draftFirst when, draftSecond when] (draftSecond when).after :=
  Script.history_call (draftScript_within when)
    (Script.history_call (draftScript_within when) (.nil _))

def statusSent : Event Reply → Option FlowRun
  | ⟨.updateStatus sent, _⟩ => some sent
  | _ => none

end KubeZap
