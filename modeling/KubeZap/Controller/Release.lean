import KubeZap.Controller.Simulation

/-! # Letting go of a finished FlowRun

A FlowRun is finished by two writes: its status, and then its metadata, which drops
the finalizer. A call that is stopped between the two leaves a FlowRun that every
later call takes for garbage and never releases. Where no call is stopped there, the
finalizer of every finished FlowRun is gone. The phase becomes a label only where it
is set between the two writes, in the last block of `Reconcile`: `finishFlowRun` sets
it before the first one, whose answer replaces the object. A FlowRun that has failed
or was cancelled keeps the label it had.
-/

namespace KubeZap

open Foundation
open Foundation.Versioned (Store WriteError)

def FlowRun.phaseLabel (o : FlowRun) : Option String := o.metadata.labels.lookup labelPhase

/-- The finalizer is gone and the label tells the phase. -/
def Released (o : FlowRun) : Prop :=
  executingFinalizer ∉ o.metadata.finalizers ∧ o.phaseLabel = some o.status.phase.text

instance (o : FlowRun) : Decidable (Released o) := inferInstanceAs (Decidable (_ ∧ _))

/-- The finalizer is gone; the label tells the phase of a FlowRun that has succeeded, and is
another's own. -/
structure LetGo (Own : Option String → Prop) (o : FlowRun) : Prop where
  finalizer : executingFinalizer ∉ o.metadata.finalizers
  succeeded : o.status.phase = .succeeded → o.phaseLabel = some o.status.phase.text
  other : o.status.phase ≠ .succeeded → Own o.phaseLabel

/-- The first write stores a terminal phase, the second the metadata; `lossy` says whether the
answer to a write may be lost. -/
def endMark (lossy : Bool) : Event Reply → Mark
  | ⟨.updateStatus sent, .ok _⟩ => if sent.status.phase.terminal then .opens else .neutral
  | ⟨.updateStatus sent, .error _⟩ =>
    if lossy ∧ sent.status.phase.terminal then .spoils else .neutral
  | ⟨.update _, .ok _⟩ => .closes
  | ⟨.update _, .error _⟩ => .fails
  | _ => .neutral

/-! ## Objects in memory -/

section Objects

variable {Own : Option String → Prop} {o o' : FlowRun}

theorem LetGo.released (h : LetGo Own o) (hphase : o.status.phase = .succeeded) : Released o :=
  ⟨h.finalizer, h.succeeded hphase⟩

theorem Kept.phaseLabel (h : Kept o o') : o'.phaseLabel = o.phaseLabel := by
  rw [FlowRun.phaseLabel, h.labels]
  rfl

theorem LetGo.congr (h : LetGo Own o) (hfinalizers : o'.metadata.finalizers = o.metadata.finalizers)
    (hlabel : o'.phaseLabel = o.phaseLabel) (hstatus : o'.status = o.status) : LetGo Own o' where
  finalizer := by rw [hfinalizers]; exact h.finalizer
  succeeded := by rw [hstatus, hlabel]; exact h.succeeded
  other := by rw [hstatus, hlabel]; exact h.other

theorem LetGo.kept (h : LetGo Own o) (hkept : Kept o o') : LetGo Own o' :=
  h.congr hkept.finalizers hkept.phaseLabel hkept.status

theorem not_mem_removeFinalizer (fr : FlowRun) :
    executingFinalizer ∉ fr.removeFinalizer.metadata.finalizers := by
  simp [FlowRun.removeFinalizer]

theorem letGo_finish (hown : Own o.phaseLabel) (hphase : o.status.phase ≠ .succeeded) :
    LetGo Own o.removeFinalizer where
  finalizer := not_mem_removeFinalizer o
  succeeded h := absurd h hphase
  other _ := hown

theorem letGo_succeed (hphase : o.status.phase = .succeeded) :
    LetGo Own (o.setPhaseLabel .succeeded).removeFinalizer where
  finalizer := not_mem_removeFinalizer _
  succeeded _ := by
    change List.lookup _ (StringMap.set _ _ _) = some o.status.phase.text
    rw [StringMap.lookup_set_self, hphase]
  other h := absurd hphase h

end Objects

/-! ## One call -/

/-- What is stored before a FlowRun has ended carries its own label. -/
def Plain (Own : Option String → Prop) (w : World) : Prop :=
  ∀ o ∈ w.store.versions, o.status.phase.terminal = false → Own o.phaseLabel

/-- What a call holds: until the status of the end is written an object with its own
label, and then the object that releases the FlowRun. -/
def Prepared (Own : Option String → Prop) (b : Pairing) : Stage → Prop
  | .idle => b = .settled
  | .loaded fr => b = .settled ∧ (fr.status.phase.terminal = false → Own fr.phaseLabel)
  | .orphaned fr | .admitted fr _ _ | .entering fr _ | .executing fr _ _ _ | .inlined fr _
  | .failing fr => b = .settled ∧ Own fr.phaseLabel
  | .releasing obj => obj.status.phase.terminal = true ∧ LetGo Own obj
  | .closed _ => b ≠ .opened
  | .scanning _ | .scanReleasing _ _ => True

/-- Every finished FlowRun is let go, but for the one that the call is finishing. -/
structure Orderly (Own : Option String → Prop) (key : NamespacedName) (b : Pairing) (w : World)
    (σ : Stage) : Prop where
  stage : Prepared Own b σ
  plain : Plain Own w
  finished : ∀ k o, w.store.current k = some o → (k = key → b = .settled) →
    o.status.phase.terminal = true → LetGo Own o

section Call

variable {r : FlowRunReconciler} {P : Policy} {key : NamespacedName} {w₀ w w' : World}
variable {tr : List (Event Reply)} {Own : Option String → Prop} {b : Pairing} {lossy : Bool}

theorem Plain.touched (h : Plain Own w) (hwf : w.store.WF flowRunKind) (ht : Touched w w') :
    Plain Own w' := by
  intro o ho hactive
  obtain ⟨o', ho', hkept⟩ := ht.versions hwf ho
  rw [hkept.status] at hactive
  rw [hkept.phaseLabel]
  exact h o' ho' hactive

variable {sent : FlowRun}

theorem Plain.accepted {merge : FlowRun → FlowRun → FlowRun} {stored : FlowRun} (h : Plain Own w)
    (hacc : Accepted merge w sent stored w')
    (hnew : (merge stored sent).status.phase.terminal = false →
      Own (merge stored sent).phaseLabel) : Plain Own w' := by
  intro o ho hactive
  rw [hacc.store] at ho
  rcases Store.mem_versions_commit ho with ho | ⟨n, rfl⟩
  · exact h o ho hactive
  · exact hnew hactive

variable {σ σ' : Stage} {x : Except WriteError FlowRun}

theorem Prepared.settled (h : Prepared Own b σ) (hmove : Moves r key σ (.updateStatus sent) x σ') :
    b = .settled := by
  cases hmove with
  | start t x hmay | inline x hmay | inlineFail x hmay | finish reason msg t since x hmay =>
    cases hmay <;> exact h.1
  | wait | waitFail | batch | batchFail | succeed => exact h.1

theorem endMark_status_active {answer : FlowRun} (hactive : sent.status.phase.terminal = false) :
    endMark lossy ⟨.updateStatus sent, .ok answer⟩ = .neutral := by
  simp [endMark, hactive]

theorem Prepared.status {answer : FlowRun} (h : Prepared Own b σ) (hheld : Held r P w σ)
    (hanswer : Own answer.phaseLabel) (hstatus : answer.status = sent.status.encode)
    (hmove : Moves r key σ (.updateStatus sent) (.ok answer) σ') :
    Prepared Own (b.next (endMark lossy ⟨.updateStatus sent, .ok answer⟩)) σ' := by
  have hb := h.settled hmove
  -- a status that does not end the FlowRun leaves the call where it was
  have hquiet (hactive : sent.status.phase.terminal = false) :
      b.next (endMark lossy ⟨.updateStatus sent, .ok answer⟩) = .settled := by
    rw [endMark_status_active hactive, Pairing.next_neutral, hb]
  cases hmove with
  | start t x hmay => exact ⟨hquiet rfl, hanswer⟩
  | inline x hmay | inlineFail x hmay => exact ⟨hquiet (hmay.held hheld).1.active, hanswer⟩
  | wait =>
    change Pairing.next _ _ ≠ .opened
    rw [hquiet hheld.active]
    nofun
  | batch =>
    change Pairing.next _ _ ≠ .opened
    rw [hquiet hheld.1.active]
    nofun
  | waitFail x _ _ _ => exact ⟨hquiet hheld.active, hanswer⟩
  | batchFail x _ => exact ⟨hquiet hheld.1.active, hanswer⟩
  | @finish σ fr phase reason msg t since x hmay =>
    have hphase : answer.status.phase = phase := by
      rw [hstatus]
      exact (finish_status fr phase reason msg t since).1
    change answer.status.phase.terminal = true ∧ _
    rcases (hmay.held hheld).2.2.1 with rfl | rfl
    · exact ⟨by rw [hphase]; rfl, letGo_finish hanswer (by rw [hphase]; nofun)⟩
    · exact ⟨by rw [hphase]; rfl, letGo_finish hanswer (by rw [hphase]; nofun)⟩
  | @succeed fr flow checked t since x _ _ _ =>
    have hphase : answer.status.phase = .succeeded := by
      rw [hstatus]
      exact (succeed_status fr t since).1
    refine ⟨?_, letGo_succeed hphase⟩
    change answer.status.phase.terminal = true
    rw [hphase]
    rfl

theorem Along.stored_active {stored : FlowRun} (hal : Along r P w₀ key tr w σ)
    (hmove : Moves r key σ (.updateStatus sent) x σ')
    (hacc : Accepted flowRunKind.mergeStatus w sent stored w') :
    stored.status.phase.terminal = false := by
  obtain ⟨fr, hseen, hsame, htrans, _⟩ :=
    @AnyMoves.updateStatus_held r P w w' _ _ _ _ (.call hmove) hal.held
  exact (hseen.transition hal.wf hsame hacc htrans).keeps.1

theorem next_endMark_status (hb : b = .settled) (hterm : sent.status.phase.terminal = true)
    (hx : lossy = true ∨ ∃ answer, x = .ok answer) :
    b.next (endMark lossy ⟨.updateStatus sent, x⟩) ≠ .settled := by
  subst hb
  cases x with
  | ok answer => simp [endMark, hterm, Pairing.next]
  | error e =>
    have hlossy : lossy = true := by simpa using hx
    simp [endMark, hterm, hlossy, Pairing.next]

theorem next_endMark_error {e : WriteError} (hb : b = .settled) :
    b.next (endMark lossy ⟨.updateStatus sent, .error e⟩) ≠ .opened := by
  subst hb
  unfold endMark
  dsimp only
  split <;> simp [Pairing.next]

theorem Orderly.status (hlossy : lossy = decide (P.faults = .losing))
    (hal : Along r P w₀ key tr w σ) (h : Orderly Own key b w σ)
    (hw : Writes P flowRunKind.mergeStatus w sent x w')
    (hmove : Moves r key σ (.updateStatus sent) x σ') :
    Orderly Own key (b.next (endMark lossy ⟨.updateStatus sent, x⟩)) w' σ' := by
  have hname := hmove.status_name hal.named
  have hb := h.stage.settled hmove
  have hfails : ∀ e, x = .error e →
      Prepared Own (b.next (endMark lossy ⟨.updateStatus sent, x⟩)) σ' := by
    rintro e rfl
    have hclosed : σ' = .closed { err := some (.write e) } := by cases hmove <;> rfl
    rw [hclosed]
    exact next_endMark_error hb
  rcases hw.effect hal.wf with ⟨rfl, e, hx⟩ | ⟨stored, hacc, hx⟩
  · exact ⟨hfails e hx, h.plain, fun k o ho _ => h.finished k o ho fun _ => hb⟩
  have hactive := hal.stored_active hmove hacc
  have hown : Own stored.phaseLabel := h.plain stored (hal.wf.known _ _ hacc.current).1 hactive
  refine ⟨?_, h.plain.accepted hacc fun _ => hown, fun k o ho hsettled hterm => ?_⟩
  · rcases hx with ⟨answer, n, rfl, rfl⟩ | ⟨_, e, hx⟩
    · exact h.stage.status hal.held hown rfl hmove
    · exact hfails e hx
  · rcases hacc.stored ho with ⟨rfl, m, rfl⟩ | ⟨hne, ho⟩
    · -- the end that was just written is yet to be followed by the metadata
      refine absurd (hsettled hname) (next_endMark_status hb hterm ?_)
      rcases hx with ⟨answer, _, hx, _⟩ | ⟨hlosing, _⟩
      · exact .inr ⟨answer, hx⟩
      · exact .inl (by rw [hlossy, hlosing]; rfl)
    · exact h.finished k o ho (fun hk => absurd (hk.trans hname.symm) hne) hterm

theorem next_endMark_update :
    b.next (endMark lossy ⟨.update sent, x⟩) ≠ .opened ∧
      (b = .settled → b.next (endMark lossy ⟨.update sent, x⟩) = .settled) := by
  cases x <;> cases b <;> simp [endMark, Pairing.next]

theorem next_endMark_update_error {e : WriteError}
    (h : b.next (endMark lossy ⟨.update sent, .error e⟩) = .settled) : b = .settled := by
  cases b <;> simp [endMark, Pairing.next] at h ⊢

theorem Prepared.update (h : Prepared Own b σ) (hal : Along r P w₀ key tr w σ)
    (hw : Writes P flowRunKind.mergeMain w sent x w') (hmove : Moves r key σ (.update sent) x σ') :
    Prepared Own (b.next (endMark lossy ⟨.update sent, x⟩)) σ' := by
  cases hmove with
  | @addFinalizer fr flow x _ =>
    refine Stage.after_of (fun _ => next_endMark_update.1) fun answer ha =>
      ⟨next_endMark_update.2 h.1, ?_⟩
    obtain ⟨_, _, _, n, rfl⟩ := (ha ▸ hw).accepted hal.wf
    exact h.2
  | release x => exact next_endMark_update.1

theorem Orderly.update (hal : Along r P w₀ key tr w σ)
    (h : Orderly Own key b w σ) (hw : Writes P flowRunKind.mergeMain w sent x w')
    (hmove : Moves r key σ (.update sent) x σ') :
    Orderly Own key (b.next (endMark lossy ⟨.update sent, x⟩)) w' σ' := by
  have hstage : Prepared Own (b.next (endMark lossy ⟨.update sent, x⟩)) σ' :=
    h.stage.update hal hw hmove
  rcases hw.effect hal.wf with ⟨rfl, e, rfl⟩ | ⟨stored, hacc, _⟩
  · exact ⟨hstage, h.plain, fun k o ho hb =>
      h.finished k o ho fun hk => next_endMark_update_error (hb hk)⟩
  have hholds := (AnyMoves.update_seen (.call hmove) hal.held).stored hal.wf hacc.current
    hacc.version
  have hstatus : sent.status = stored.status := hholds.status
  cases hmove with
  | @addFinalizer fr flow x _ =>
    have hactive : stored.status.phase.terminal = false := by
      rw [← hstatus]
      exact hal.held.active
    refine ⟨hstage, h.plain.accepted hacc fun _ => h.stage.2, fun k o ho _ hterm => ?_⟩
    rcases hacc.stored ho with ⟨_, m, rfl⟩ | ⟨_, ho⟩
    · cases hactive.symm.trans hterm
    · exact h.finished k o ho (fun _ => h.stage.1) hterm
  | release x =>
    obtain ⟨hterm, hgo⟩ := h.stage
    have hended : stored.status.phase.terminal = true := by
      rw [← hstatus]
      exact hterm
    refine ⟨hstage, h.plain.accepted hacc fun hactive => ?_, fun k o ho _ hterm => ?_⟩
    · cases hended.symm.trans hactive
    · rcases hacc.stored ho with ⟨_, m, rfl⟩ | ⟨hne, ho⟩
      · exact hgo.congr rfl rfl hstatus.symm
      · exact h.finished k o ho (fun hk => absurd (hk.trans hal.named.symm) hne) hterm

theorem Prepared.other {q : Req} {x : Reply q} (h : Prepared Own b σ) (hplain : Plain Own w)
    (hwf : w.store.WF flowRunKind) (hmain : ∀ sent, q ≠ .update sent)
    (hstatus : ∀ sent, q ≠ .updateStatus sent) (hserver : Server r P w q x w')
    (hmove : Moves r key σ q x σ') : Prepared Own b σ' := by
  cases hmove with
  | now | check | trigger | list | delete | execute | executeNext => exact h
  | read fr =>
    refine ⟨h, fun hactive => ?_⟩
    cases hserver with
    | read hread => exact hplain fr (hread.mem_versions hwf) hactive
  | readFails =>
    rw [show b = .settled from h]
    nofun
  | reread | flowFails =>
    rw [show b = .settled from h.1]
    nofun
  | flow flow hcont | flowMissing msg hcont => exact ⟨h.1, h.2 hcont.phase⟩
  | addFinalizer | release => exact absurd rfl (hmain _)
  | _ => exact absurd rfl (hstatus _)

theorem Orderly.step {q : Req} {x : Reply q} (hlossy : lossy = decide (P.faults = .losing))
    (hal : Along r P w₀ key tr w σ) (h : Orderly Own key b w σ) (hserver : Server r P w q x w')
    (hmove : Moves r key σ q x σ') :
    Orderly Own key (b.next (endMark lossy ⟨q, x⟩)) w' σ' := by
  cases q with
  | updateStatus sent => exact h.status hlossy hal hserver.updateStatus_inv hmove
  | update sent => exact h.update hal hserver.update_inv hmove
  | _ =>
    have ht := hserver.touched hal.wf (by simp) (by simp)
    have hstage := h.stage.other h.plain hal.wf (by simp) (by simp) hserver hmove
    change Orderly Own key (b.next .neutral) w' σ'
    rw [Pairing.next_neutral]
    refine ⟨hstage, h.plain.touched hal.wf ht, fun k o ho hb hterm => ?_⟩
    obtain ⟨o', ho', hkept⟩ := ht.current ho
    rw [hkept.status] at hterm
    exact (h.finished k o' ho' hb hterm).kept hkept

/-- A call that returned is not between the two writes. -/
theorem Prepared.ended {res : Option Result} (h : Prepared Own b σ)
    (hret : ∀ a, res = some a → Returns r σ a) (hopen : res = none → b ≠ .opened) :
    b ≠ .opened := by
  cases res with
  | none => exact hopen rfl
  | some a =>
    cases hret a rfl with
    | closed result => exact h
    | collected | pending | unreachable =>
      rw [h.1]
      nofun

end Call

/-! ## Every history -/

/-- Every finished FlowRun is let go, and every other carries its own label. -/
structure Tidy (Own : Option String → Prop) (w : World) : Prop where
  plain : Plain Own w
  finished : ∀ k o, w.store.current k = some o → o.status.phase.terminal = true → LetGo Own o

/-- The call was stopped after it had stored a terminal phase and before it had stored the
metadata. -/
def Call.LeavesEnded (P : Policy) (c : Call) : Prop := c.Stopped (endMark (P.faults = .losing))

instance (P : Policy) (c : Call) : Decidable (c.LeavesEnded P) :=
  inferInstanceAs (Decidable (c.Stopped _))

section Histories

variable {r : FlowRunReconciler} {P : Policy} {w w' : World} {Own : Option String → Prop}

theorem Tidy.call {key : NamespacedName} {tr : List (Event Reply)} {res : Option Result}
    (hwf : w.store.WF flowRunKind) (h : Tidy Own w)
    (hrun : Exec (Server r P) w (reconcile r key) tr w' res)
    (hcond : ¬ (Call.mk key w tr w' res).LeavesEnded P) : Tidy Own w' := by
  let mark := endMark (P.faults = .losing)
  obtain ⟨σ, _, horderly, hret⟩ := reconcile_along hwf hrun
    (fun tr w σ => Orderly Own key (pairing mark tr) w σ)
    ⟨rfl, h.plain, fun k o ho _ hterm => h.finished k o ho hterm⟩ (by
      intro tr w σ q x w' σ' hal horderly hserver hmove
      rw [pairing_append]
      exact horderly.step rfl hal hserver hmove)
  obtain ⟨hrest, hopen⟩ := not_or.mp hcond
  have hends := horderly.stage.ended hret fun hres hb => hopen ⟨hb, hres⟩
  have hsettled : pairing mark tr = .settled := by
    cases hb : pairing mark tr with
    | settled => rfl
    | opened => exact absurd hb hends
    | stopped => exact absurd hb hrest
  exact ⟨horderly.plain, fun k o ho hterm => horderly.finished k o ho (fun _ => hsettled) hterm⟩

theorem Tidy.users (hwf : w.store.WF flowRunKind) (h : Tidy Own w) (huser : Users w w') :
    Tidy Own w' := by
  refine ⟨h.plain.touched hwf huser.touched, fun k o ho hterm => ?_⟩
  obtain ⟨o', ho', hkept⟩ := huser.touched.current ho
  rw [hkept.status] at hterm
  exact (h.finished k o' ho' hterm).kept hkept

/-- In every history in which no call is stopped between the two writes, whatever its
reads return and whichever of its writes fail, the finalizer of a FlowRun that is
finished after a call is gone. Its label tells the phase where it has succeeded;
where it has not, the label is the one it had. -/
theorem finished_runs_released {cs : List Call} (hwf : w.store.WF flowRunKind)
    (hinit : Tidy Own w) (hhist : History r P w cs w') (hcond : ∀ c ∈ cs, ¬ c.LeavesEnded P) :
    ∀ c ∈ cs, ∀ o, c.after.store.current c.key = some o → o.status.phase.terminal = true →
      executingFinalizer ∉ o.metadata.finalizers ∧ (o.status.phase = .succeeded → Released o) ∧
      (o.status.phase ≠ .succeeded → Own o.phaseLabel) := by
  refine hhist.each (Tidy Own) hwf hinit hcond (fun _ _ hwf h huser => h.users hwf huser) ?_
  intro c hwf htidy hrun hcond
  have hnext : Tidy Own c.after := htidy.call hwf hrun hcond
  refine ⟨hnext, fun o ho hterm => ?_⟩
  have hgo := hnext.finished c.key o ho hterm
  exact ⟨hgo.finalizer, hgo.released, hgo.other⟩

end Histories

def stampFlow : Flow :=
  ⟨{ steps := [{ name := "stamp", action := { type := .transform, transform := some ⟨[]⟩ } }] }⟩

def stampRun : FlowRun where
  metadata := { name := ⟨"default", "stamp-1"⟩ }
  spec := { flowRef := "stamp" }

def stampScript (rejects : Bool) : Script where
  flows _ := .ok stampFlow
  io _ := stepAnswers 0 fun _ _ => .unbuilt "not used"
  rejects q := match q with
    | .update o => rejects && o.status.phase.terminal
    | _ => false

theorem stampScript_within (rejects : Bool) :
    (stampScript rejects).Within (.ofFlow .rejecting stampFlow) where
  fresh := rfl
  flows _ := rfl
  rejects _ _ := by simp [Policy.ofFlow]

/-- Three calls: one executes the step, one finishes the FlowRun, one finds it finished. -/
def stampFirst (rejects : Bool) : Call :=
  (stampScript rejects).call plainReconciler ⟨"default", "stamp-1"⟩ (.single stampRun 0)

def stampSecond (rejects : Bool) : Call :=
  (stampScript rejects).call plainReconciler ⟨"default", "stamp-1"⟩ (stampFirst rejects).after

def stampThird (rejects : Bool) : Call :=
  (stampScript rejects).call plainReconciler ⟨"default", "stamp-1"⟩ (stampSecond rejects).after

theorem stamp_history (rejects : Bool) :
    History plainReconciler (.ofFlow .rejecting stampFlow) (.single stampRun 0)
      [stampFirst rejects, stampSecond rejects, stampThird rejects] (stampThird rejects).after :=
  Script.history_call (stampScript_within rejects) (Script.history_call (stampScript_within rejects)
    (Script.history_call (stampScript_within rejects) (.nil _)))

theorem tidy_single {Own : Option String → Prop} {o : FlowRun} {clock : Time}
    (hlabel : Own o.phaseLabel) (hactive : o.status.phase.terminal = false) :
    Tidy Own (.single o clock) where
  plain o' ho' _ := by
    rw [List.mem_singleton.mp ho']
    exact hlabel
  finished k o' ho' hterm := by
    simp only [World.single] at ho'
    split at ho'
    · cases ho'
      rw [hactive] at hterm
      cases hterm
    · cases ho'

theorem stamp_tidy : Tidy (· = none) (.single stampRun 0) := tidy_single rfl rfl

theorem finished_runs_released_stamp :
    ∃ o, (stampThird false).after.store.current (stampThird false).key = some o ∧
      o.status.phase = .succeeded ∧ Released o := by
  have hphase : ((stampThird false).after.store.current (stampThird false).key).map
      (fun o => o.status.phase) = some .succeeded := by
    decide +kernel
  obtain ⟨o, ho, hsucc⟩ := Option.map_eq_some_iff.mp hphase
  have hcond : ∀ c ∈ [stampFirst false, stampSecond false, stampThird false],
      ¬ c.LeavesEnded (.ofFlow .rejecting stampFlow) := by
    decide +kernel
  have hrel := finished_runs_released (World.single_wf rfl) stamp_tidy (stamp_history false) hcond
    (stampThird false) (by simp) o ho (by rw [hsucc]; rfl)
  exact ⟨o, ho, hsucc, hrel.2.1 hsucc⟩

/-- The metadata of the finished FlowRun is rejected once: the next call returns
cleanly and leaves the finalizer. -/
theorem finished_run_not_released :
    ∃ (P : Policy) (w w' : World) (cs : List Call),
      P.stale = false ∧ P.faults = .rejecting ∧ w.store.WF flowRunKind ∧ Tidy (· = none) w ∧
      History plainReconciler P w cs w' ∧
      ∃ c ∈ cs, c.result = some {} ∧ ∃ o ∈ c.before.store.current c.key,
        o.status.phase.terminal = true ∧ ∃ o' ∈ c.after.store.current c.key,
          executingFinalizer ∈ o'.metadata.finalizers ∧ ¬ Released o' :=
  ⟨.ofFlow .rejecting stampFlow, .single stampRun 0, _, _, rfl, rfl, World.single_wf rfl,
    stamp_tidy, stamp_history true, stampThird true, by simp, by decide +kernel,
    by decide +kernel⟩

end KubeZap
