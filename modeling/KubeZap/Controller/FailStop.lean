import KubeZap.Controller.FlowValidation
import KubeZap.Controller.Order

/-! # Nothing runs after a fatal failure

A fatal failure is stored by one status write and the Failed phase by the next. A
call that is stopped between the two leaves a Running FlowRun with a fatal entry,
and the calls after it dispatch whatever else is ready. Where no call is stopped
there, by a write that fails or by a restart, a stored fatal entry means a terminal
phase, and nothing is executed: a call that has stored one does nothing else before
it has stored the phase.
-/

namespace KubeZap

open Foundation
open Foundation.Versioned (Store WriteError)

/-- A Failed entry of a step whose failure neither the step nor the Flow tolerates. -/
def FatalFailure (flow : Flow) (xs : List StepRunStatus) : Prop :=
  ∃ e ∈ xs, e.phase = .failed ∧ ∃ step ∈ flow.spec.steps, step.name = e.name ∧
    step.onFailure ≠ .continuing ∧ flow.spec.failurePolicy ≠ .continuing

instance (flow : Flow) (xs : List StepRunStatus) : Decidable (FatalFailure flow xs) :=
  inferInstanceAs (Decidable (∃ e ∈ xs, e.phase = .failed ∧ ∃ step ∈ flow.spec.steps,
    step.name = e.name ∧ step.onFailure ≠ .continuing ∧ flow.spec.failurePolicy ≠ .continuing))

theorem fatalFailure_encode {flow : Flow} {xs : List StepRunStatus} :
    FatalFailure flow (xs.map StepRunStatus.encode) ↔ FatalFailure flow xs := by
  simp [FatalFailure]

/-- The first write stores a fatal failure, the second a terminal phase; `lossy` says whether the
answer to a write may be lost. -/
def fatalMark (flow : Flow) (lossy : Bool) : Event Reply → Mark
  | ⟨.updateStatus sent, .ok _⟩ =>
    if sent.status.phase.terminal then .closes
    else if FatalFailure flow sent.status.steps then .opens else .neutral
  | ⟨.updateStatus sent, .error _⟩ =>
    if lossy ∧ sent.status.phase.terminal = false ∧ FatalFailure flow sent.status.steps then .spoils
    else .fails
  | _ => .neutral

/-! ## Progress that is not fatal -/

section Sound

variable {flow : Flow} {xs ys : List StepRunStatus}

/-- The step names of a Flow are distinct. -/
def Flow.Distinct (flow : Flow) : Prop := (flow.spec.steps.map FlowStep.name).Nodup

instance (flow : Flow) : Decidable flow.Distinct := inferInstanceAs (Decidable (List.Nodup _))

theorem not_fatal_upsert {e : StepRunStatus} {step : FlowStep} (hdistinct : flow.Distinct)
    (hxs : ¬ FatalFailure flow xs) (hstep : step ∈ flow.spec.steps) (hname : e.name = step.name)
    (he : e.phase = .failed → failureContinues flow.spec step = true) :
    ¬ FatalFailure flow (upsertStepStatus xs e) := by
  rintro ⟨e', he', hfailed, step', hstep', hname', hon, hpolicy⟩
  rcases Keyed.mem_upsert he' with rfl | he'
  · obtain rfl : step' = step :=
      List.inj_on_of_nodup_map hdistinct hstep' hstep (hname'.trans hname)
    have hcontinues := he hfailed
    simp [failureContinues, hon, hpolicy] at hcontinues
  · exact hxs ⟨e', he', hfailed, step', hstep', hname', hon, hpolicy⟩

theorem Inlined.not_fatal {r : FlowRunReconciler} {d : Dispatch} {spec : FlowRunSpec}
    (hdistinct : d.flow.Distinct) (h : Inlined r d spec xs ys) (hxs : ¬ FatalFailure d.flow xs) :
    ¬ FatalFailure d.flow ys := by
  induction h with
  | refl => exact hxs
  | tail _ hstep ih =>
    cases hstep with
    | skip hready hname hphase =>
      exact not_fatal_upsert hdistinct ih hready.mem hname fun hfailed => by
        rw [hphase] at hfailed
        cases hfailed
    | fail hready hname _ _ hcontinues =>
      exact not_fatal_upsert hdistinct ih hready.mem hname fun _ => hcontinues

theorem waveStatuses_not_fatal {lib : GoLib} {outs : List (FlowStep × StepReturn)}
    (hdistinct : flow.Distinct) (hxs : ¬ FatalFailure flow xs)
    (hsteps : ∀ o ∈ outs, o.1 ∈ flow.spec.steps) (hok : ∀ o ∈ outs, StepOk o.1 o.2)
    (hreach : ∀ o ∈ outs, o.2.transport = false) (hnot : ∀ o ∈ outs, o.2.fatal flow o.1 = false) :
    ¬ FatalFailure flow (waveStatuses lib flow xs outs) := by
  rw [waveStatuses_eq]
  refine List.foldlRecOn (motive := fun ys => ¬ FatalFailure flow ys) _ _ hxs ?_
  intro ys hys e he
  obtain ⟨o, ho, rfl⟩ := List.mem_map.mp he
  obtain ⟨s, hs, hname, hphase, _⟩ := @waveEntry_final lib flow o (hok o ho) (hreach o ho)
  refine not_fatal_upsert hdistinct hys (hsteps o ho) hname fun hfailed => ?_
  have hfatal := hnot o ho
  rw [hphase] at hfailed
  simpa [StepReturn.fatal, hs, hfailed] using hfatal

end Sound

/-! ## One call -/

section Call

variable {r : FlowRunReconciler} {P : Policy} {flows : NamespacedName → Flow} {flow : Flow}
variable {key : NamespacedName} {w₀ w w' : World} {tr : List (Event Reply)} {b : Pairing}
variable {σ σ' : Stage} {q : Req}

/-- What a call holds has no fatal failure, until it is about to fail the FlowRun. -/
def Sound (flows : NamespacedName → Flow) (key : NamespacedName) (flow : Flow) (b : Pairing) :
    Stage → Prop
  | .idle | .orphaned _ => b = .settled
  | .loaded fr => b = .settled ∧ flowOf flows key fr.spec = flow ∧
      (fr.status.phase.terminal = false → ¬ FatalFailure flow fr.status.steps)
  | .admitted fr flow' _ | .entering fr flow' | .executing fr flow' _ _ =>
    b = .settled ∧ flow' = flow ∧ ¬ FatalFailure flow fr.status.steps
  | .inlined fr d => b = .settled ∧ d.flow = flow ∧ ¬ FatalFailure flow fr.status.steps
  | .releasing _ | .closed _ => b ≠ .opened
  | .failing _ | .scanning _ | .scanReleasing _ _ => True

/-- A stored fatal failure belongs to a FlowRun that has ended, but for the one that the call is
about to fail. -/
structure Watched (flows : NamespacedName → Flow) (key : NamespacedName) (flow : Flow) (b : Pairing)
    (w : World) (σ : Stage) : Prop where
  stage : Sound flows key flow b σ
  stored : ∀ k o, w.store.current k = some o → (k = key → b = .settled) →
    FatalFailure (flowOf flows k o.spec) o.status.steps → o.status.phase.terminal = true

theorem next_fatalMark_error {sent : FlowRun} {e : WriteError} {lossy : Bool} :
    b.next (fatalMark flow lossy ⟨.updateStatus sent, .error e⟩) ≠ .opened := by
  unfold fatalMark
  cases b <;> (dsimp only; split <;> simp [Pairing.next])

theorem next_fatalMark_settled {sent : FlowRun} {x : Except WriteError FlowRun} {lossy : Bool}
    (hx : lossy = true ∨ ∃ answer, x = .ok answer)
    (hnext : b.next (fatalMark flow lossy ⟨.updateStatus sent, x⟩) = .settled)
    (hfatal : FatalFailure flow sent.status.steps) : sent.status.phase.terminal = true := by
  by_contra hactive
  rw [Bool.not_eq_true] at hactive
  cases x with
  | ok answer => cases b <;> simp [fatalMark, hactive, hfatal, Pairing.next] at hnext
  | error e =>
    obtain hlossy : lossy = true := by simpa using hx
    cases b <;> simp [fatalMark, hlossy, hactive, hfatal, Pairing.next] at hnext

theorem next_fatalMark_error_settled {sent : FlowRun} {e : WriteError} {lossy : Bool}
    (h : b.next (fatalMark flow lossy ⟨.updateStatus sent, .error e⟩) = .settled) :
    b = .settled := by
  unfold fatalMark at h
  dsimp only at h
  split at h <;> cases b <;> simp [Pairing.next] at h ⊢

theorem next_fatalMark_closes {sent answer : FlowRun} {lossy : Bool}
    (hterm : sent.status.phase.terminal = true) :
    b.next (fatalMark flow lossy ⟨.updateStatus sent, .ok answer⟩) ≠ .opened := by
  cases b <;> simp [fatalMark, hterm, Pairing.next]

/-- A status without a fatal failure leaves the call where it was. -/
theorem next_fatalMark_neutral {sent answer : FlowRun} {lossy : Bool}
    (hsent : ¬ FatalFailure flow sent.status.steps) (hb : b = .settled) :
    b.next (fatalMark flow lossy ⟨.updateStatus sent, .ok answer⟩) = .settled := by
  subst hb
  unfold fatalMark
  dsimp only
  rw [if_neg hsent]
  split <;> rfl

theorem next_fatalMark_quiet {x : Reply q} {lossy : Bool} (hq : ∀ sent, q ≠ .updateStatus sent) :
    b.next (fatalMark flow lossy ⟨q, x⟩) = b := by
  cases q with
  | updateStatus sent => exact absurd rfl (hq sent)
  | _ => exact b.next_neutral

theorem Sound.status {sent : FlowRun} {x : Except WriteError FlowRun} {lossy : Bool}
    (hdistinct : flow.Distinct) (hal : Along r P w₀ key tr w σ) (h : Sound flows key flow b σ)
    (hanswer : ∀ answer, x = .ok answer → answer.status = sent.status.encode)
    (hmove : Moves r key σ (.updateStatus sent) x σ') :
    Sound flows key flow (b.next (fatalMark flow lossy ⟨.updateStatus sent, x⟩)) σ' := by
  cases x with
  | error e =>
    have hclosed : σ' = .closed { err := some (.write e) } := by cases hmove <;> rfl
    rw [hclosed]
    exact next_fatalMark_error
  | ok answer =>
    have hsteps : answer.status.steps = sent.status.steps.map StepRunStatus.encode := by
      rw [hanswer answer rfl]
      rfl
    cases hmove with
    | @start σ fr flow' t x hmay =>
      have hfr : b = .settled ∧ flow' = flow ∧ ¬ FatalFailure flow fr.status.steps := by
        cases hmay <;> exact h
      refine ⟨next_fatalMark_neutral hfr.2.2 hfr.1, hfr.2.1, ?_⟩
      rw [hsteps, fatalFailure_encode]
      exact hfr.2.2
    | @inline σ fr d xs x hmay hinl =>
      have hfr : b = .settled ∧ d.flow = flow ∧ ¬ FatalFailure flow fr.status.steps := by
        cases hmay with
        | admitted hd =>
          obtain ⟨hb, rfl, hsound⟩ := h
          exact ⟨hb, hd.data.flow_eq, hsound⟩
        | inlined => exact h
      obtain ⟨hb, rfl, hsound⟩ := hfr
      have hxs := Inlined.not_fatal hdistinct hinl hsound
      refine ⟨next_fatalMark_neutral hxs hb, rfl, ?_⟩
      rw [hsteps, fatalFailure_encode]
      exact hxs
    | inlineFail | waitFail | batchFail => trivial
    | @wait fr flow' checked d step e x result hd hentry hcontinues =>
      obtain ⟨hb, rfl, hsound⟩ := h
      have hnext := not_fatal_upsert hdistinct hsound (List.mem_filter.mp hentry.mem).1
        hentry.name_eq hcontinues
      change Pairing.next _ _ ≠ .opened
      rw [next_fatalMark_neutral hnext hb]
      nofun
    | @batch fr flow' outs x hreach hnot =>
      obtain ⟨hb, rfl, hsound⟩ := h
      have hwave := hal.held.2
      have hmem : ∀ o ∈ outs, o.1 ∈ flow'.spec.steps := by
        intro o ho
        have hsteps : outs.map Prod.fst = collectWave flow' fr.status.steps := by
          rw [← hwave.steps, List.append_nil]
        exact (List.mem_filter.mp (hsteps ▸ List.mem_map_of_mem ho)).1
      have hnext := @waveStatuses_not_fatal _ _ r.lib outs hdistinct hsound hmem hwave.returned
        hreach hnot
      change Pairing.next _ _ ≠ .opened
      rw [next_fatalMark_neutral hnext hb]
      nofun
    | @finish σ fr phase reason msg t since x hmay =>
      refine next_fatalMark_closes ?_
      rw [(finish_status fr phase reason msg t since).1]
      cases hmay <;> rfl
    | @succeed fr flow' checked t since x _ _ _ =>
      refine next_fatalMark_closes ?_
      rw [(succeed_status fr t since).1]
      rfl

theorem Sound.update {sent : FlowRun} {x : Except WriteError FlowRun} (hfresh : P.stale = false)
    (hal : Along r P w₀ key tr w σ) (h : Sound flows key flow b σ)
    (hw : Writes P flowRunKind.mergeMain w sent x w') (hmove : Moves r key σ (.update sent) x σ') :
    Sound flows key flow b σ' := by
  cases hmove with
  | @addFinalizer fr flow' x hphase =>
    obtain ⟨hb, hflow, hsound⟩ := h
    refine Stage.after_of (fun _ => by rw [hb]; nofun) fun answer ha => ⟨hb, hflow, ?_⟩
    obtain ⟨stored, hacc, _, n, rfl⟩ := (ha ▸ hw).accepted hal.wf
    obtain ⟨hname, o, ho, hholds⟩ := hal.synced hfresh
    have hstored : stored = o := by
      have hcur := hacc.current
      rw [show fr.addFinalizer.metadata.name = key from hname, ho] at hcur
      exact (Option.some.inj hcur).symm
    change ¬ FatalFailure flow stored.status.steps
    rw [hstored, ← hholds.status]
    exact hsound
  | release x => exact h

theorem Sound.other {x : Reply q} (hfresh : P.stale = false) (hflows : P.Unedited flows)
    (hal : Along r P w₀ key tr w σ) (h : Watched flows key flow b w σ)
    (hflow : ∀ o, w.store.current key = some o → flowOf flows key o.spec = flow)
    (hserver : Server r P w q x w') (hmove : Moves r key σ q x σ')
    (hmain : ∀ sent, q ≠ .update sent) (hstatus : ∀ sent, q ≠ .updateStatus sent) :
    Sound flows key flow b σ' := by
  have hstage := h.stage
  cases hmove with
  | addFinalizer | release => exact absurd rfl (hmain _)
  | start | inline | inlineFail | wait | waitFail | batch | batchFail | finish | succeed =>
    exact absurd rfl (hstatus _)
  | now | check | trigger | list | delete | execute | executeNext => exact hstage
  | read fr =>
    cases hserver with
    | read hread =>
      have hcur := hread.current hfresh
      have hfr := hflow fr hcur
      refine ⟨hstage, hfr, fun hactive hfatal => ?_⟩
      rw [← hfr] at hfatal
      rw [h.stored _ fr hcur (fun _ => hstage) hfatal] at hactive
      cases hactive
  | readFails =>
    rw [show b = .settled from hstage]
    nofun
  | reread | flowFails =>
    rw [show b = .settled from hstage.1]
    nofun
  | @flow fr flow' hcont =>
    cases hserver with
    | flow hread =>
      obtain ⟨hb, hfr, hsound⟩ := hstage
      have hread := hflows _ _ hread
      rw [show fr.metadata.name = key from hal.named] at hread
      exact ⟨hb, hread.trans hfr, hsound hcont.phase⟩
  | flowMissing => exact hstage.1

/-- A call that returned is not between the two writes. -/
theorem Sound.ended {res : Option Result} (h : Sound flows key flow b σ)
    (hret : ∀ a, res = some a → Returns r σ a) (hrest : b ≠ .stopped)
    (hopen : res = none → b ≠ .opened) : b = .settled := by
  cases res with
  | none => cases b with
    | settled => rfl
    | opened => exact absurd rfl (hopen rfl)
    | stopped => exact absurd rfl hrest
  | some a =>
    cases hret a rfl with
    | closed result => cases b with
      | settled => rfl
      | opened => exact absurd rfl h
      | stopped => exact absurd rfl hrest
    | collected | pending | unreachable => exact h.1

theorem Watched.step {x : Reply q} {lossy : Bool} (hfresh : P.stale = false)
    (hflows : P.Unedited flows) (hdistinct : flow.Distinct)
    (hlossy : lossy = decide (P.faults = .losing))
    (hal : Along r P w₀ key tr w σ) (h : Watched flows key flow b w σ)
    (hflow : ∀ o, w.store.current key = some o → flowOf flows key o.spec = flow)
    (hserver : Server r P w q x w') (hmove : Moves r key σ q x σ') :
    Watched flows key flow (b.next (fatalMark flow lossy ⟨q, x⟩)) w' σ' := by
  -- a request that is no status write leaves every stored spec and status as it was
  have hquiet (hstatus : ∀ sent, q ≠ .updateStatus sent) (hsound : Sound flows key flow b σ') :
      Watched flows key flow (b.next (fatalMark flow lossy ⟨q, x⟩)) w' σ' := by
    rw [next_fatalMark_quiet hstatus]
    refine ⟨hsound, fun k o ho hb hfatal => ?_⟩
    obtain ⟨o', ho', hspec, _⟩ := hal.held.refines hal.wf hserver (.call hmove) k o ho
    obtain ⟨o'', ho'', hcases⟩ := (hserver.effect hal.wf).current ho
    obtain rfl : o'' = o' := Option.some.inj (ho''.symm.trans ho')
    have hsame : o.status = o''.status := by
      rcases hcases with hkept | ⟨_, _, _, _, _, hsame⟩ | ⟨sent, hq, _⟩
      · exact hkept.status
      · exact hsame
      · exact absurd hq (hstatus sent)
    rw [hspec, hsame] at hfatal
    rw [hsame]
    exact h.stored k o'' ho'' hb hfatal
  cases q with
  | updateStatus sent =>
    have hw := hserver.updateStatus_inv
    have hname := hmove.status_name hal.named
    refine ⟨h.stage.status hdistinct hal ?_ hmove, fun k o ho hb hfatal => ?_⟩
    · rintro answer rfl
      obtain ⟨_, _, rfl⟩ := hw.answer
      rfl
    rcases hw.effect hal.wf with ⟨rfl, e, rfl⟩ | ⟨stored, hacc, hx⟩
    · exact h.stored k o ho (fun hk => next_fatalMark_error_settled (hb hk)) hfatal
    rcases hacc.stored ho with ⟨rfl, n, rfl⟩ | ⟨hk, ho⟩
    · have hspec := hflow stored (hname ▸ hacc.current)
      have hanswered : lossy = true ∨ ∃ answer, x = .ok answer := by
        rcases hx with ⟨answer, _, hx, _⟩ | ⟨hlosing, _⟩
        · exact .inr ⟨answer, hx⟩
        · exact .inl (by rw [hlossy, hlosing]; rfl)
      change FatalFailure (flowOf flows _ stored.spec) (sent.status.steps.map _) at hfatal
      rw [hname, hspec, fatalFailure_encode] at hfatal
      have hterm := next_fatalMark_settled hanswered (hb hname) hfatal
      exact hterm
    · exact h.stored k o ho (fun hkey => absurd (hkey.trans hname.symm) hk) hfatal
  | update sent =>
    exact hquiet (by simp) (h.stage.update hfresh hal hserver.update_inv hmove)
  | _ =>
    exact hquiet (by simp)
      (Sound.other hfresh hflows hal h hflow hserver hmove (by simp) (by simp))

end Call

/-- Every stored fatal failure belongs to a FlowRun that has ended. -/
def Settled (flows : NamespacedName → Flow) (w : World) : Prop :=
  Throughout (fun k spec status =>
    FatalFailure (flowOf flows k spec) status.steps → status.phase.terminal = true) w

/-- The call was stopped after it had stored a fatal failure and before it had stored a terminal
phase. -/
def Call.LeavesFatal (flows : NamespacedName → Flow) (P : Policy) (c : Call) : Prop :=
  ∃ o ∈ c.before.store.current c.key,
    c.Stopped (fatalMark (flowOf flows c.key o.spec) (P.faults = .losing))

instance (flows : NamespacedName → Flow) (P : Policy) (c : Call) :
    Decidable (c.LeavesFatal flows P) :=
  inferInstanceAs (Decidable (∃ o ∈ c.before.store.current c.key, _))

section Histories

variable {r : FlowRunReconciler} {P : Policy} {flows : NamespacedName → Flow} {w w' : World}

theorem Settled.call {key : NamespacedName} {tr : List (Event Reply)} {res : Option Result}
    (hfresh : P.stale = false) (hflows : P.Unedited flows) (hdistinct : ∀ k, (flows k).Distinct)
    (hwf : w.store.WF flowRunKind) (h : Settled flows w)
    (hrun : Exec (Server r P) w (reconcile r key) tr w' res)
    (hcond : ¬ (Call.mk key w tr w' res).LeavesFatal flows P) : Settled flows w' := by
  -- where nothing is stored under the key, any Flow will do
  obtain ⟨flow, hflow, hstopped⟩ : ∃ flow : Flow, flow.Distinct ∧
      ∀ o, w.store.current key = some o → flowOf flows key o.spec = flow ∧
        ¬ (Call.mk key w tr w' res).Stopped (fatalMark flow (P.faults = .losing)) := by
    cases hcur : w.store.current key with
    | none => exact ⟨flows key, hdistinct key, by simp⟩
    | some o =>
      refine ⟨flowOf flows key o.spec, hdistinct _, fun o' ho' => ?_⟩
      cases ho'
      exact ⟨rfl, fun h => hcond ⟨o, hcur, h⟩⟩
  let mark := fatalMark flow (P.faults = .losing)
  obtain ⟨σ, hal, hwatched, hret⟩ := reconcile_along hwf hrun
    (fun tr w σ => Watched flows key flow (pairing mark tr) w σ)
    ⟨rfl, fun k o ho _ => h k o ho⟩ (by
      intro tr w σ q x w' σ' hal hwatched hserver hmove
      rw [pairing_append]
      refine hwatched.step hfresh hflows hflow rfl hal (fun o ho => ?_) hserver hmove
      obtain ⟨o₀, ho₀, hspec, _⟩ := hal.descends key o ho
      rw [hspec]
      exact (hstopped o₀ ho₀).1)
  intro k o ho
  refine hwatched.stored k o ho ?_
  rintro rfl
  obtain ⟨o₀, ho₀, _⟩ := hal.descends k o ho
  obtain ⟨hrest, hopen⟩ := not_or.mp (hstopped o₀ ho₀).2
  refine hwatched.stage.ended hret hrest ?_
  exact fun hres hb => hopen ⟨hb, hres⟩

theorem Settled.users (huser : Users w w') (h : Settled flows w) : Settled flows w' := by
  intro k o ho hfatal
  obtain ⟨o', ho', hkept⟩ := huser.touched.current ho
  rw [hkept.spec, hkept.status] at hfatal
  rw [hkept.status]
  exact h k o' ho' hfatal

/-- In every history with fresh reads in which no call is stopped between the two
writes, a call that starts with a stored fatal failure executes nothing and leaves
the FlowRun in a terminal phase. -/
theorem fail_stop {cs : List Call} (hfresh : P.stale = false) (hflows : P.Unedited flows)
    (hdistinct : ∀ k, (flows k).Distinct) (hwf : w.store.WF flowRunKind) (hinit : Settled flows w)
    (hhist : History r P w cs w') (hcond : ∀ c ∈ cs, ¬ c.LeavesFatal flows P) :
    ∀ c ∈ cs, ∀ o, c.before.store.current c.key = some o →
      FatalFailure (flowOf flows c.key o.spec) o.status.steps →
      executions c.trace = [] ∧ Ended c.after c.key := by
  refine hhist.each (Settled flows) hwf hinit hcond (fun _ _ _ h huser => h.users huser) ?_
  intro c hwf hsettled hrun hcond
  refine ⟨hsettled.call hfresh hflows hdistinct hwf hrun hcond, fun o ho hfatal => ?_⟩
  have hended : Ended c.before c.key := ended_of_current ho (hsettled c.key o ho hfatal)
  exact ⟨reconcile_retired hfresh hwf hended hrun, hended.mono (reconcile_descends hwf hrun).2⟩

end Histories

/-- `check` fails when it is executed; `notify` waits for `fetch`. -/
def checkFlow : Flow :=
  ⟨{ steps :=
      [{ name := "check", action := { type := .transform } },
       { name := "fetch", action := { type := .transform, transform := some ⟨[]⟩ } },
       { name := "notify", runAfter := ["fetch"]
         action := { type := .transform, transform := some ⟨[]⟩ } }] }⟩

def checkRun : FlowRun where
  metadata := { name := ⟨"default", "check-1"⟩ }
  spec := { flowRef := "check" }

variable (phases : List FlowRunPhase)

def checkScript : Script where
  flows _ := .ok checkFlow
  io _ := stepAnswers 0 fun _ _ => .unbuilt "not used"
  rejects
    | .updateStatus fr => fr.status.phase ∈ phases
    | _ => false

theorem checkScript_within :
    (checkScript phases).Within (.ofFlow .rejecting checkFlow) where
  fresh := rfl
  flows _ := rfl
  rejects _ _ := by decide

def checkFirst : Call :=
  (checkScript phases).call plainReconciler ⟨"default", "check-1"⟩ (.single checkRun 0)

def checkSecond : Call :=
  (checkScript []).call plainReconciler ⟨"default", "check-1"⟩ (checkFirst phases).after

theorem check_history :
    History plainReconciler (.ofFlow .rejecting checkFlow) (.single checkRun 0)
      [checkFirst phases, checkSecond phases] (checkSecond phases).after :=
  Script.history_call (checkScript_within phases)
    (Script.history_call (checkScript_within []) (.nil _))

theorem check_settled : Settled (fun _ => checkFlow) (.single checkRun 0) :=
  throughout_single fun ⟨_, he, _⟩ => by cases he

/-- With every write accepted the second call finds the FlowRun ended. -/
theorem fail_stop_ended :
    ∃ o ∈ (checkSecond []).before.store.current (checkSecond []).key,
      FatalFailure checkFlow o.status.steps ∧ executions (checkSecond []).trace = [] := by
  have hfatal : ∃ o ∈ (checkSecond []).before.store.current (checkSecond []).key,
      FatalFailure checkFlow o.status.steps := by decide +kernel
  obtain ⟨o, ho, hfat⟩ := hfatal
  have hcond : ∀ c ∈ [checkFirst [], checkSecond []],
      ¬ c.LeavesFatal (fun _ => checkFlow) (.ofFlow .rejecting checkFlow) := by decide +kernel
  have hstop := fail_stop rfl (ofFlow_unedited .rejecting checkFlow) (fun _ => by decide)
    (World.single_wf rfl) check_settled (check_history []) hcond (checkSecond []) (by simp) o ho
    hfat
  exact ⟨o, ho, hfat, hstop.1⟩

/-- The write of the Failed phase is rejected, and the second call executes `notify`. -/
theorem fatal_failure_runs_on :
    ∃ (flow : Flow) (w w' : World) (cs : List Call),
      validateFlowSpec plainReconciler.lib flow.spec = none ∧ w.store.WF flowRunKind ∧
      Settled (fun _ => flow) w ∧
      History plainReconciler (.ofFlow .rejecting flow) w cs w' ∧
      ∃ c ∈ cs, ∃ o ∈ c.before.store.current c.key,
        FatalFailure flow o.status.steps ∧ (executions c.trace).map (·.1.name) = ["notify"] := by
  have hvalid : validateFlowSpec plainReconciler.lib checkFlow.spec = none := by decide +kernel
  have hruns : ∃ o ∈ (checkSecond [.failed]).before.store.current (checkSecond [.failed]).key,
      FatalFailure checkFlow o.status.steps ∧
        (executions (checkSecond [.failed]).trace).map (·.1.name) = ["notify"] := by
    decide +kernel
  exact ⟨checkFlow, .single checkRun 0, _, _, hvalid, World.single_wf rfl, check_settled,
    check_history [.failed], checkSecond [.failed], by simp, hruns⟩

end KubeZap
