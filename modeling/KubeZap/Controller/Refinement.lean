import KubeZap.Controller.StatusMachine

/-! # The controller refines the state machine of a FlowRun

`Held` is what a call knows in each stage of its protocol, whatever the other
calls and the users do meanwhile: the FlowRun in its memory was stored once. With
it, every accepted status write is a transition of the state machine from the
stored status, and every accepted update leaves specs and statuses alone.
`refinement` is the rule of interference that results for any invariant of the
machine, over pools of calls of `Reconcile` and startup scans.
-/

namespace KubeZap

open Foundation
open Foundation.Versioned (WriteError)

section Statuses

variable (fr : FlowRun)

/-- `sent` is written under the name and version of `fr`. -/
structure SameVersion (sent : FlowRun) : Prop where
  name : sent.metadata.name = fr.metadata.name
  version : sent.metadata.resourceVersion = fr.metadata.resourceVersion

theorem sameVersion_start (t : Time) : SameVersion fr (fr.start t) := ⟨rfl, rfl⟩

theorem sameVersion_setSteps (xs : List StepRunStatus) : SameVersion fr (fr.setSteps xs) :=
  ⟨rfl, rfl⟩

theorem sameVersion_finish (phase : FlowRunPhase) (reason msg : String) (t since : Time) :
    SameVersion fr (fr.finish phase reason msg t since) := by
  unfold FlowRun.finish
  dsimp only
  split <;> exact ⟨rfl, rfl⟩

theorem sameVersion_succeed (t since : Time) : SameVersion fr (fr.succeed t since) := by
  unfold FlowRun.succeed
  dsimp only
  split <;> exact ⟨rfl, rfl⟩

theorem finish_status (phase : FlowRunPhase) (reason msg : String) (t since : Time) :
    (fr.finish phase reason msg t since).status.phase = phase ∧
      (fr.finish phase reason msg t since).status.startTime = fr.status.startTime ∧
      (fr.finish phase reason msg t since).status.steps = fr.status.steps := by
  unfold FlowRun.finish
  dsimp only
  split <;> exact ⟨rfl, rfl, rfl⟩

theorem succeed_status (t since : Time) :
    (fr.succeed t since).status.phase = .succeeded ∧
      (fr.succeed t since).status.startTime = fr.status.startTime ∧
      (fr.succeed t since).status.steps = fr.status.steps := by
  unfold FlowRun.succeed
  dsimp only
  split <;> exact ⟨rfl, rfl, rfl⟩

end Statuses

/-! ## What a call knows -/

def FlowsOf (P : Policy) (name : NamespacedName) (spec : FlowRunSpec) (flow : Flow) : Prop :=
  P.flow ⟨name.namespace_, spec.flowRef⟩ (.ok flow)

section Knowledge

variable (r : FlowRunReconciler) (P : Policy)

structure Working (w : World) (fr : FlowRun) (flow : Flow) : Prop where
  seen : Seen w fr
  active : fr.status.phase.terminal = false
  flow : FlowsOf P fr.metadata.name fr.spec flow

structure WaveOf (fr : FlowRun) (flow : Flow) (outs : List (FlowStep × StepReturn))
    (rest : List FlowStep) : Prop where
  running : fr.status.phase = .running
  steps : outs.map Prod.fst ++ rest = collectWave flow fr.status.steps
  returned : ∀ o ∈ outs, StepOk o.1 o.2
  barrier : ∀ s ∈ collectWave flow fr.status.steps, s.action.type ≠ .wait

def Held (w : World) : Stage → Prop
  | .idle => True
  | .loaded fr => Seen w fr
  | .orphaned fr => Seen w fr ∧ fr.status.phase.terminal = false
  | .admitted fr flow _ => Working P w fr flow
  | .entering fr flow => Working P w fr flow ∧ fr.status.phase ≠ .running
  | .executing fr flow outs rest => Working P w fr flow ∧ WaveOf fr flow outs rest
  | .inlined fr d => Working P w fr d.flow ∧ fr.status.phase = .running ∧
      DecidedBy r d.flow fr.spec fr.status.steps d
  | .failing fr => Seen w fr ∧ fr.status.phase = .running
  | .releasing obj => Seen w obj
  | .closed _ => True
  | .scanning items => ∀ fr ∈ items, Seen w fr
  | .scanReleasing items obj => (∀ fr ∈ items, Seen w fr) ∧ Seen w obj

end Knowledge

section Stable

variable {r : FlowRunReconciler} {P : Policy} {w w' : World}

theorem Working.mono {fr : FlowRun} {flow : Flow} (h : Working P w fr flow)
    (hseen : ∀ fr, Seen w fr → Seen w' fr) : Working P w' fr flow :=
  ⟨hseen _ h.seen, h.active, h.flow⟩

theorem Held.mono {σ : Stage} (h : Held r P w σ) (hseen : ∀ fr, Seen w fr → Seen w' fr) :
    Held r P w' σ := by
  cases σ with
  | idle | closed => trivial
  | loaded | releasing => exact hseen _ h
  | orphaned | failing => exact ⟨hseen _ h.1, h.2⟩
  | admitted fr flow checked => exact Working.mono h hseen
  | entering | executing | inlined => exact ⟨h.1.mono hseen, h.2⟩
  | scanning items => exact fun fr hfr => hseen _ (h fr hfr)
  | scanReleasing items obj => exact ⟨fun fr hfr => hseen _ (h.1 fr hfr), hseen _ h.2⟩

end Stable

/-! ## Own moves -/

/-- The protocol of a call on any FlowRun, or of the startup scan. -/
inductive AnyMoves (r : FlowRunReconciler) (σ : Stage) (q : Req) (x : Reply q) (σ' : Stage) : Prop
  | call {key : NamespacedName} : Moves r key σ q x σ' → AnyMoves r σ q x σ'
  | scan : ScanMoves σ q x σ' → AnyMoves r σ q x σ'

section Own

variable {r : FlowRunReconciler} {P : Policy} {w w' : World}

variable {sent : FlowRun} {x : Except WriteError FlowRun}

theorem Server.updateStatus_inv
    (h : Server r P w (.updateStatus sent) x w') : Writes P flowRunKind.mergeStatus w sent x w' := by
  cases h with
  | updateStatus hw => exact hw

theorem Server.update_inv
    (h : Server r P w (.update sent) x w') : Writes P flowRunKind.mergeMain w sent x w' := by
  cases h with
  | update hw => exact hw

structure Written (w' : World) (fr sent fr' : FlowRun) : Prop where
  seen : Seen w' fr'
  status : fr'.status = sent.status.encode
  spec : fr'.spec = fr.spec
  name : fr'.metadata.name = fr.metadata.name

variable {fr : FlowRun}

theorem Writes.written {answer : FlowRun} (hwf : w.store.WF flowRunKind)
    (hw : Writes P flowRunKind.mergeStatus w sent (.ok answer) w') (hseen : Seen w fr)
    (hsent : SameVersion fr sent) : Written w' fr sent answer := by
  obtain ⟨stored, hacc, _, n, hanswer⟩ := hw.accepted hwf
  have hstored : Holds stored fr := hseen.stored hwf (by rw [← hsent.name]; exact hacc.current)
    (by rw [← hsent.version]; exact hacc.version)
  refine ⟨hw.seen hwf, ?_, ?_, ?_⟩
  · rw [hanswer]; rfl
  · rw [hanswer, hstored.spec]; rfl
  · rw [hanswer, hstored.name]; rfl

theorem Written.working {fr' : FlowRun} {flow : Flow} (h : Written w' fr sent fr')
    (hflow : FlowsOf P fr.metadata.name fr.spec flow)
    (hactive : sent.status.phase.terminal = false) : Working P w' fr' flow where
  seen := h.seen
  active := by rw [h.status]; exact hactive
  flow := by rw [FlowsOf, h.spec, h.name]; exact hflow

theorem Written.running {fr' : FlowRun} (h : Written w' fr sent fr')
    (hrun : sent.status.phase = .running) : fr'.status.phase = .running := by
  rw [h.status]
  exact hrun

theorem Writes.updated {answer : FlowRun} (hwf : w.store.WF flowRunKind)
    (hw : Writes P flowRunKind.mergeMain w fr (.ok answer) w') (hseen : Seen w fr) :
    Seen w' answer ∧ answer.status = fr.status ∧ answer.spec = fr.spec ∧
      answer.metadata.name = fr.metadata.name := by
  obtain ⟨stored, hacc, _, n, hanswer⟩ := hw.accepted hwf
  have hstored : Holds stored fr := hseen.stored hwf hacc.current hacc.version
  refine ⟨hw.seen hwf, ?_, ?_, ?_⟩
  · rw [hanswer, hstored.status]; rfl
  · rw [hanswer]; rfl
  · rw [hanswer, hstored.name]; rfl

variable {σ : Stage}

theorem MayStart.held {flow : Flow} (hmay : MayStart σ fr flow)
    (hheld : Held r P w σ) : Working P w fr flow ∧ fr.status.phase ≠ .running := by
  cases hmay with
  | admitted hne => exact ⟨hheld, hne⟩
  | entering => exact hheld

theorem MayInline.held {d : Dispatch} (hmay : MayInline r σ fr d)
    (hheld : Held r P w σ) : Working P w fr d.flow ∧ fr.status.phase = .running ∧
      DecidedBy r d.flow fr.spec fr.status.steps d := by
  cases hmay with
  | @admitted fr flow checked d hd _ =>
    have hflow := hd.data.flow_eq
    subst hflow
    exact ⟨hheld, hd.running, rfl, hd.data.stepResults_eq, hd.data.params_eq⟩
  | inlined => exact hheld

theorem MayFinish.held {phase : FlowRunPhase} (hmay : MayFinish σ fr phase) (hheld : Held r P w σ) :
    Seen w fr ∧ fr.status.phase.terminal = false ∧ (phase = .failed ∨ phase = .cancelled) ∧
      (phase = .cancelled → fr.status.phase = .running) := by
  cases hmay with
  | cancel hrun _ => exact ⟨hheld, by rw [hrun]; rfl, .inr rfl, fun _ => hrun⟩
  | orphaned => exact ⟨hheld.1, hheld.2, .inl rfl, nofun⟩
  | admitted hrun => exact ⟨hheld.seen, by rw [hrun]; rfl, .inl rfl, nofun⟩
  | failing => exact ⟨hheld.1, by rw [hheld.2]; rfl, .inl rfl, nofun⟩

theorem WaveOf.progress {flow : Flow} {outs : List (FlowStep × StepReturn)}
    (hwave : WaveOf fr flow outs []) (hreach : ∀ o ∈ outs, o.2.transport = false) :
    Progress r flow fr.spec fr.status.steps (waveStatuses r.lib flow fr.status.steps outs) := by
  have hsteps : outs.map Prod.fst = collectWave flow fr.status.steps := by
    rw [← hwave.steps, List.append_nil]
  refine .wave hsteps hwave.returned hreach fun o ho => hwave.barrier o.1 ?_
  rw [← hsteps]
  exact List.mem_map_of_mem ho

variable {σ' : Stage}

theorem AnyMoves.updateStatus_held (hmove : AnyMoves r σ (.updateStatus sent) x σ')
    (hheld : Held r P w σ) :
    ∃ fr, Seen w fr ∧ SameVersion fr sent ∧
      Transition r (FlowsOf P fr.metadata.name fr.spec) fr.spec fr.status sent.status ∧
      ((∀ o, Seen w o → Seen w' o) →
        (∀ answer, x = .ok answer → Written w' fr sent answer) →
        Held r P w' σ') := by
  obtain hm | hm := hmove
  · cases hm with
    | @start σ fr flow t x hmay =>
      obtain ⟨hwork, hne⟩ := hmay.held hheld
      refine ⟨fr, hwork.seen, sameVersion_start fr t, .start hwork.active hne rfl rfl, ?_⟩
      intro _ hans
      exact Stage.after_of (fun _ => trivial) fun answer ha =>
        (hans answer ha).working hwork.flow rfl
    | @inline σ fr d xs x hmay hinl =>
      obtain ⟨hwork, hrun, hdec⟩ := hmay.held hheld
      refine ⟨fr, hwork.seen, sameVersion_setSteps fr xs,
        .progress hwork.flow hrun hrun rfl (.inline hdec hinl), ?_⟩
      intro _ hans
      refine Stage.after_of (fun _ => trivial) fun answer ha => ?_
      have hwr := hans answer ha
      refine ⟨hwr.working hwork.flow hwork.active, hwr.running hrun, ?_⟩
      rw [hwr.spec, hwr.status]
      exact (hdec.inlined hinl).encode
    | @inlineFail σ fr d xs step e x hmay hinl hready hname hphase _ =>
      obtain ⟨hwork, hrun, hdec⟩ := hmay.held hheld
      refine ⟨fr, hwork.seen, sameVersion_setSteps fr _,
        .progress hwork.flow hrun hrun rfl (.inlineFail hdec hinl hready hname hphase), ?_⟩
      intro _ hans
      exact Stage.after_of (fun _ => trivial) fun answer ha =>
        ⟨(hans answer ha).seen, (hans answer ha).running hrun⟩
    | @wait fr flow checked d step e x result hd hentry _ =>
      refine ⟨fr, hheld.seen, sameVersion_setSteps fr _,
        .progress hheld.flow hd.running hd.running rfl (.wait hentry), ?_⟩
      intro _ _
      exact Stage.after_of (fun _ => trivial) fun _ _ => trivial
    | @waitFail fr flow checked d step e x hd hentry _ =>
      refine ⟨fr, hheld.seen, sameVersion_setSteps fr _,
        .progress hheld.flow hd.running hd.running rfl (.wait hentry), ?_⟩
      intro _ hans
      exact Stage.after_of (fun _ => trivial) fun answer ha =>
        ⟨(hans answer ha).seen, (hans answer ha).running hd.running⟩
    | @batch fr flow outs x hreach _ =>
      obtain ⟨hwork, hwave⟩ := hheld
      refine ⟨fr, hwork.seen, sameVersion_setSteps fr _,
        .progress hwork.flow hwave.running hwave.running rfl (hwave.progress hreach), ?_⟩
      intro _ _
      exact Stage.after_of (fun _ => trivial) fun _ _ => trivial
    | @batchFail fr flow outs x hreach =>
      obtain ⟨hwork, hwave⟩ := hheld
      refine ⟨fr, hwork.seen, sameVersion_setSteps fr _,
        .progress hwork.flow hwave.running hwave.running rfl (hwave.progress hreach), ?_⟩
      intro _ hans
      exact Stage.after_of (fun _ => trivial) fun answer ha =>
        ⟨(hans answer ha).seen, (hans answer ha).running hwave.running⟩
    | @finish σ fr phase reason msg t since x hmay =>
      obtain ⟨hseen, hactive, hphase, hcancel⟩ := hmay.held hheld
      obtain ⟨hp, hstart, hsteps⟩ := finish_status fr phase reason msg t since
      refine ⟨fr, hseen, sameVersion_finish fr phase reason msg t since,
        .finish hactive (by rw [hp]; exact hphase) (by rw [hp]; exact hcancel) hstart hsteps, ?_⟩
      intro _ hans
      exact Stage.after_of (fun _ => trivial) fun answer ha =>
        (hans answer ha).seen.imp fun _ hholds => hholds.removeFinalizer
    | @succeed fr flow checked t since x hrun _ hdone =>
      obtain ⟨hp, hstart, hsteps⟩ := succeed_status fr t since
      refine ⟨fr, hheld.seen, sameVersion_succeed fr t since,
        .succeed hheld.flow hrun hdone hp hstart hsteps, ?_⟩
      intro _ hans
      exact Stage.after_of (fun _ => trivial) fun answer ha =>
        (hans answer ha).seen.imp fun _ hholds =>
          (hholds.setPhaseLabel .succeeded).removeFinalizer
  · cases hm with
    | @finish items fr reason msg t since x hmem hrun =>
      obtain ⟨hp, hstart, hsteps⟩ := finish_status fr .failed reason msg t since
      refine ⟨fr, hheld fr hmem, sameVersion_finish fr .failed reason msg t since,
        .finish (by rw [hrun]; rfl) (.inl hp) (by rw [hp]; exact fun h => by cases h) hstart hsteps,
        ?_⟩
      intro hmono hans
      cases x with
      | error e => exact fun o ho => hmono o (hheld o ho)
      | ok answer =>
        exact ⟨fun o ho => hmono o (hheld o ho),
          (hans answer rfl).seen.imp fun _ hholds => hholds.removeFinalizer⟩

theorem AnyMoves.update_seen (hmove : AnyMoves r σ (.update sent) x σ') (hheld : Held r P w σ) :
    Seen w sent := by
  obtain hm | hm := hmove
  · cases hm with
    | addFinalizer x hne => exact hheld.seen.imp fun _ hholds => hholds.addFinalizer
    | release x => exact hheld
  · cases hm with
    | release x => exact hheld.2

theorem Held.own {q : Req} {x : Reply q} (hwf : w.store.WF flowRunKind)
    (hheld : Held r P w σ) (hserver : Server r P w q x w')
    (hmove : AnyMoves r σ q x σ') : Held r P w' σ' := by
  have hmono : ∀ o, Seen w o → Seen w' o := fun o => (hserver.effect hwf).change.seen
  cases q with
  | updateStatus sent =>
    obtain ⟨fr, hseen, hsame, _, hnext⟩ := hmove.updateStatus_held hheld
    refine hnext hmono fun answer ha => ?_
    subst ha
    exact hserver.updateStatus_inv.written hwf hseen hsame
  | update sent =>
    have hw := hserver.update_inv
    have hsent := hmove.update_seen hheld
    obtain hm | hm := hmove
    · cases hm with
      | @addFinalizer fr flow x hne =>
        refine Stage.after_of (fun _ => trivial) fun answer ha => ?_
        subst ha
        obtain ⟨hseen, hstatus, hspec, hname⟩ := hw.updated hwf hsent
        refine ⟨⟨hseen, ?_, ?_⟩, ?_⟩
        · rw [hstatus]; exact hheld.active
        · rw [FlowsOf, hspec, hname]; exact hheld.flow
        · rw [hstatus]; exact hne
      | release x => trivial
    · cases hm with
      | release x => exact fun o ho => hmono o (hheld.1 o ho)
  | now =>
    obtain hm | hm := hmove
    · cases hm with
      | now | check => exact hheld.mono hmono
    · cases hm with
      | now => exact hheld.mono hmono
  | listFlowRuns ns labels =>
    obtain hm | hm := hmove
    · cases hm with
      | list x hterm => exact hheld.mono hmono
    · cases hm with
      | list x =>
        cases hserver with
        | list hread => exact fun o ho => (hread o ho).1.seen hwf
        | listFails msg hf => exact fun o ho => by cases ho
  | getFlowRun k =>
    obtain hm | ⟨⟨⟩⟩ := hmove
    cases hm with
    | read fr =>
      cases hserver with
      | read hread => exact hread.seen hwf
    | readFails | reread => trivial
  | delete o =>
    obtain hm | ⟨⟨⟩⟩ := hmove
    cases hm with
    | delete x hterm => exact hheld.mono hmono
  | getFlow k =>
    obtain hm | ⟨⟨⟩⟩ := hmove
    cases hm with
    | flow flow hcont =>
      cases hserver with
      | flow hflow => exact ⟨hheld, hcont.phase, hflow⟩
    | flowMissing msg hcont => exact ⟨hmono _ hheld, hcont.phase⟩
    | flowFails e => trivial
  | getTrigger k =>
    obtain hm | ⟨⟨⟩⟩ := hmove
    cases hm with
    | trigger x hterm => exact hheld.mono hmono
  | executeStep c =>
    obtain hm | ⟨⟨⟩⟩ := hmove
    cases hm with
    | @execute fr flow checked d step rest c ret hd _ hwave hbar hstep hok =>
      refine ⟨Working.mono hheld hmono, hd.running, by simp [hwave], ?_, ?_⟩
      · exact List.forall_mem_singleton.mpr hok
      · rw [hwave]; exact hbar
    | @executeNext fr flow outs step rest c ret hstep hok =>
      obtain ⟨hwork, hwave⟩ := hheld
      refine ⟨hwork.mono hmono, hwave.running, ?_, ?_, hwave.barrier⟩
      · rw [← hwave.steps]; simp
      · exact List.forall_mem_append.mpr ⟨hwave.returned, List.forall_mem_singleton.mpr hok⟩

end Own

/-! ## Refinement -/

/-- Between `w` and `w'` no FlowRun appeared, no spec changed, and each stored
status is the old one or the encoding of one transition from it. -/
def Refines (r : FlowRunReconciler) (P : Policy) (w w' : World) : Prop :=
  ∀ k o', w'.store.current k = some o' → ∃ o, w.store.current k = some o ∧ o'.spec = o.spec ∧
    (o'.status = o.status ∨ ∃ new, o'.status = new.encode ∧
      Transition r (FlowsOf P k o.spec) o.spec o.status new)

variable {r : FlowRunReconciler} {P : Policy} {w w' : World}

theorem Touched.refines (h : Touched w w') : Refines r P w w' := by
  intro k o' ho'
  obtain ⟨o, ho, hkept⟩ := h.current ho'
  exact ⟨o, ho, hkept.spec, .inl hkept.status⟩

theorem Seen.transition {fr sent stored : FlowRun} (hwf : w.store.WF flowRunKind)
    (hseen : Seen w fr) (hsame : SameVersion fr sent)
    (hacc : Accepted flowRunKind.mergeStatus w sent stored w')
    (htrans : Transition r (FlowsOf P fr.metadata.name fr.spec) fr.spec fr.status sent.status) :
    Transition r (FlowsOf P sent.metadata.name stored.spec) stored.spec stored.status
      sent.status := by
  have hholds := hseen.stored hwf (by rw [← hsame.name]; exact hacc.current)
    (by rw [← hsame.version]; exact hacc.version)
  rw [hsame.name, ← hholds.spec, ← hholds.status]
  exact htrans

/-- One request of one call, or of the scan, is at most one transition of one FlowRun. -/
theorem Effect.refines {q : Req} (hwf : w.store.WF flowRunKind) (heffect : Effect w q w')
    (hupdate : ∀ sent, q = .update sent → Seen w sent)
    (hstatus : ∀ sent, q = .updateStatus sent → ∃ fr, Seen w fr ∧ SameVersion fr sent ∧
      Transition r (FlowsOf P fr.metadata.name fr.spec) fr.spec fr.status sent.status) :
    Refines r P w w' := by
  intro k o' ho'
  obtain ⟨o, ho, hcases⟩ := heffect.current ho'
  refine ⟨o, ho, ?_⟩
  rcases hcases with hkept | ⟨sent, hq, hacc, rfl, hspec, hsame⟩ |
    ⟨sent, hq, hacc, rfl, hspec, hnew⟩
  · exact ⟨hkept.spec, .inl hkept.status⟩
  · have hholds := (hupdate sent hq).stored hwf hacc.current hacc.version
    exact ⟨hspec.trans hholds.spec, .inl hsame⟩
  · obtain ⟨fr, hseen, hversion, htrans⟩ := hstatus sent hq
    exact ⟨hspec, .inr ⟨sent.status, hnew, hseen.transition hwf hversion hacc htrans⟩⟩

theorem Held.refines {σ σ' : Stage} {q : Req} {x : Reply q}
    (hwf : w.store.WF flowRunKind) (hheld : Held r P w σ) (hserver : Server r P w q x w')
    (hmove : AnyMoves r σ q x σ') : Refines r P w w' := by
  refine (hserver.effect hwf).refines hwf ?_ ?_
  · rintro sent rfl
    exact hmove.update_seen hheld
  · rintro sent rfl
    obtain ⟨fr, hseen, hsame, htrans, _⟩ := @AnyMoves.updateStatus_held r P w w' _ _ _ _ hmove hheld
    exact ⟨fr, hseen, hsame, htrans⟩

/-! ## Pools of calls -/

/-- What the manager starts: calls of `Reconcile`, and `Start`. -/
inductive Controller (r : FlowRunReconciler) : Reconciler Unit → Prop
  | call (key : NamespacedName) : Controller r (reconcile r key >>= fun _ => pure ())
  | scan : Controller r (startupScan r)

theorem Controller.follows {p : Reconciler Unit} (h : Controller r p) :
    Follows (AnyMoves r) (Credible r) (fun _ _ => True) .idle p := by
  cases h with
  | call key =>
    have hcall : Follows (Moves r key) (Credible r) (fun _ _ => True) .idle
        (reconcile r key >>= fun _ => pure ()) :=
      Follows.bind (reconcile_conforms r key) fun _ _ _ => trivial
    exact hcall.widen fun _ _ _ _ hm => .call hm
  | scan =>
    exact (startupScan_follows r).widen fun _ _ _ _ hm => .scan hm

def Throughout (I : NamespacedName → FlowRunSpec → FlowRunStatus → Prop) (w : World) : Prop :=
  ∀ k o, w.store.current k = some o → I k o.spec o.status

theorem throughout_single {I : NamespacedName → FlowRunSpec → FlowRunStatus → Prop} {o : FlowRun}
    {clock : Time} (h : I o.metadata.name o.spec o.status) : Throughout I (.single o clock) := by
  intro k o' ho'
  simp only [World.single] at ho'
  split at ho'
  · rename_i hk
    cases ho'
    rw [hk]
    exact h
  · cases ho'

section Machine

variable {r : FlowRunReconciler} {P : Policy}
variable {I : NamespacedName → FlowRunSpec → FlowRunStatus → Prop}

/-- `I` is an invariant of the state machine as the server stores it. -/
def Preserved (r : FlowRunReconciler) (P : Policy)
    (I : NamespacedName → FlowRunSpec → FlowRunStatus → Prop) : Prop :=
  ∀ k spec old new, I k spec old → Transition r (FlowsOf P k spec) spec old new →
    I k spec new.encode

theorem Refines.throughout (hI : Preserved r P I) {w w' : World} (h : Refines r P w w')
    (hw : Throughout I w) : Throughout I w' := by
  intro k o' ho'
  obtain ⟨o, ho, hspec, hstatus | ⟨new, hstatus, htrans⟩⟩ := h k o' ho'
  · rw [hspec, hstatus]
    exact hw k o ho
  · rw [hspec, hstatus]
    exact hI k o.spec o.status new (hw k o ho) htrans

theorem refinement (hI : Preserved r P I) :
    Interference (Server r P) (AnyMoves r) (Credible r) (Controller r) Users
      (fun w => w.store.WF flowRunKind ∧ Throughout I w) (Held r P) where
  honest := server_credible r P
  start _ _ _ hp := ⟨.idle, trivial, hp.follows⟩
  own w σ q x w' σ' hshared hheld hserver hmove :=
    ⟨⟨(hserver.effect hshared.1).change.wf hshared.1,
      (hheld.refines hshared.1 hserver hmove).throughout hI hshared.2⟩,
      hheld.own hshared.1 hserver hmove⟩
  others w σ q x w' τ τ' hshared hheld _ hserver _ :=
    hheld.mono fun _ => (hserver.effect hshared.1).change.seen
  outside w w' hshared huser := by
    refine ⟨⟨huser.touched.change.wf hshared.1, huser.touched.refines.throughout hI hshared.2⟩, ?_⟩
    exact fun σ hheld => hheld.mono fun _ => huser.touched.change.seen

/-- Runs of the controller: calls of `Reconcile` and scans in any interleaving,
each possibly lost at any request, and users in between. -/
abbrev Runs (r : FlowRunReconciler) (P : Policy) : Pool World Reply → Pool World Reply → Prop :=
  Relation.ReflTransGen (Pool.Step (Server r P) (Controller r) Users)

abbrev Underway (r : FlowRunReconciler) (P : Policy)
    (I : NamespacedName → FlowRunSpec → FlowRunStatus → Prop) (Q : Pool World Reply) : Prop :=
  Q.Covered (AnyMoves r) (Credible r)
    (fun w => w.store.WF flowRunKind ∧ Throughout I w) (Held r P)

theorem Runs.underway (hI : Preserved r P I) {w : World} {Q : Pool World Reply}
    (hwf : w.store.WF flowRunKind) (hw : Throughout I w) (hrun : Runs r P ⟨w, []⟩ Q) :
    Underway r P I Q :=
  Pool.Covered.run (refinement hI) ⟨⟨hwf, hw⟩, fun _ hp => by cases hp⟩ hrun

theorem Underway.refines {Q Q' : Pool World Reply} (h : Underway r P I Q)
    (hstep : Pool.Step (Server r P) (Controller r) Users Q Q') : Refines r P Q.world Q'.world := by
  obtain ⟨hshared, hprocs⟩ := h
  cases hstep with
  | spawn | quit => exact fun k o ho => ⟨o, ho, rfl, .inl rfl⟩
  | @call w w' ps qs q x k hserver =>
    obtain ⟨σ, hheld, hfollows⟩ := hprocs (.call q k) (by simp)
    obtain ⟨σ', hmove, _⟩ := hfollows x (server_credible r P _ _ _ _ hserver)
    exact hheld.refines hshared.1 hserver hmove
  | move huser => exact huser.touched.refines

end Machine

end KubeZap
