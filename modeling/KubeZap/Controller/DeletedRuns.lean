import KubeZap.Controller.Order

/-! # What garbage collection deletes

`reconcileGC` deletes by name what it has read before, perhaps from a cache that lags behind. What
is stored by then has ended as well, whoever has written it in between.
-/

namespace KubeZap

open Foundation
open Foundation.Versioned (Store)

/-! ## What a call deletes -/

def shown : (q : Req) → Reply q → List FlowRun
  | .getFlowRun _, .ok fr => [fr]
  | .listFlowRuns _ _, .ok items => items
  | _, _ => []

structure Collectable (o : FlowRun) : Prop where
  ended : o.status.phase.terminal = true
  unretained : retained o = false

def MayAsk (seen : List FlowRun) : Req → Prop
  | .delete o => o ∈ seen ∧ Collectable o
  | _ => True

/-- The stages are lists of FlowRuns that were read, of which the collectable may be deleted. -/
def Collects : Protocol (List FlowRun) Reply := fun seen q x seen' =>
  MayAsk seen q ∧ ∀ o ∈ seen', o ∈ seen ∨ o ∈ shown q x

theorem Collects.stay {seen : List FlowRun} {q : Req} {x : Reply q} (hq : MayAsk seen q) :
    Collects seen q x seen :=
  ⟨hq, fun _ ho => .inl ho⟩

section Collecting

variable {r : FlowRunReconciler} {seen : List FlowRun} {fr : FlowRun} {α β : Type}

/-- The program deletes only collectable FlowRuns that it reads or that are in `seen`. -/
abbrev Sparing (r : FlowRunReconciler) (seen : List FlowRun) (p : Reconciler α) : Prop :=
  Follows Collects (Credible r) (fun seen' _ => seen ⊆ seen') seen p

theorem sparing_pure (a : α) : Sparing r seen (pure a) := fun _ h => h

theorem Sparing.bind {p : Reconciler β} {f : β → Reconciler α} (hp : Sparing r seen p)
    (hf : ∀ seen', seen ⊆ seen' → ∀ b, Sparing r seen' (f b)) : Sparing r seen (p >>= f) :=
  Follows.bind hp fun seen' b hsub => (hf seen' hsub b).weaken fun _ _ h _ hx => h (hsub hx)

theorem sparing_send {q : Req} {f : Reply q → Reconciler α} (hq : MayAsk seen q)
    (hf : ∀ x, Sparing r (seen ++ shown q x) (f x)) : Sparing r seen (send q >>= f) := by
  intro x _
  refine ⟨seen ++ shown q x, ⟨hq, fun o ho => List.mem_append.mp ho⟩, (hf x).weaken ?_⟩
  exact fun _ _ hsub _ hx => hsub (List.mem_append_left _ hx)

theorem readGCPolicy_sparing : Sparing r seen (readGCPolicy fr) := by
  unfold readGCPolicy
  split
  · exact sparing_pure _
  · split
    · exact sparing_pure _
    · refine sparing_send trivial fun x => ?_
      cases x <;> exact sparing_pure _

theorem deleteIgnoringNotFound_sparing {o : FlowRun} (ho : o ∈ seen) (hold : Collectable o) :
    Sparing r seen (deleteIgnoringNotFound o) := by
  refine sparing_send ⟨ho, hold⟩ fun x => ?_
  cases x with
  | ok _ => exact sparing_pure _
  | error e => cases e <;> exact sparing_pure _

theorem deleteAll_sparing {items : List FlowRun}
    (hitems : ∀ o ∈ items, o ∈ seen ∧ Collectable o) : Sparing r seen (deleteAll items) := by
  induction items generalizing seen with
  | nil => exact sparing_pure _
  | cons o rest ih =>
    obtain ⟨⟨ho, hold⟩, hrest⟩ := List.forall_mem_cons.mp hitems
    refine (deleteIgnoringNotFound_sparing ho hold).bind fun seen' hsub x => ?_
    cases x with
    | error e => exact sparing_pure _
    | ok _ => exact ih fun o ho => ⟨hsub (hrest o ho).1, (hrest o ho).2⟩

theorem enforceMax_sparing {triggerName ns : String} {phase : FlowRunPhase} {max : Option Int}
    (hphase : phase.terminal = true) : Sparing r seen (enforceMax triggerName ns phase max) := by
  unfold enforceMax
  split
  · exact sparing_pure _
  · refine sparing_send trivial fun x => ?_
    cases x with
    | error e => exact sparing_pure _
    | ok items =>
      dsimp only
      split
      · exact sparing_pure _
      · generalize holdest : List.take _ _ = oldest
        refine deleteAll_sparing fun o ho => ?_
        -- what is deleted is of the phase and was listed
        rw [← holdest] at ho
        obtain ⟨hitem, hof⟩ := List.mem_filter.mp (List.mem_mergeSort.mp (List.mem_of_mem_take ho))
        obtain ⟨heq, hret⟩ : o.status.phase = phase ∧ retained o = false := by simpa using hof
        exact ⟨List.mem_append_right _ hitem, heq ▸ hphase, hret⟩

theorem expire_sparing {policy : Option FlowRunGCPolicy} (hfr : fr ∈ seen)
    (hold : Collectable fr) : Sparing r seen (expire r fr policy) := by
  unfold expire
  dsimp only
  split
  · exact sparing_pure _
  · split
    · exact sparing_pure _
    · refine sparing_send trivial fun t => ?_
      split
      · exact sparing_pure _
      · refine (deleteIgnoringNotFound_sparing (List.mem_append_left _ hfr) hold).bind ?_
        intro _ _ x
        cases x <;> exact sparing_pure _

theorem reconcileGC_sparing (hfr : fr ∈ seen) (hterm : fr.status.phase.terminal = true) :
    Sparing r seen (reconcileGC r fr) := by
  have hlimits : ∀ seen policy, Sparing r seen (enforceTriggerPolicy fr policy) := by
    intro seen policy
    cases policy with
    | none => exact sparing_pure _
    | some policy =>
      refine Sparing.bind (enforceMax_sparing rfl) fun _ _ x => ?_
      cases x with
      | error e => exact sparing_pure _
      | ok _ => exact enforceMax_sparing rfl
  unfold reconcileGC
  split
  · exact sparing_pure _
  · rename_i hret
    refine readGCPolicy_sparing.bind fun _ hread policy => ?_
    refine (hlimits _ policy).bind fun _ hlimit x => ?_
    cases x with
    | error e => exact sparing_pure _
    | ok _ =>
      refine readGCPolicy_sparing.bind fun _ hread' policy => ?_
      exact expire_sparing (hread' (hlimit (hread hfr))) ⟨hterm, by simpa using hret⟩

end Collecting

/-- The stages of a call that will not delete. -/
def Past : Stage → Prop
  | .idle => False
  | .loaded fr => fr.status.phase.terminal = false
  | _ => True

theorem Past.collects {r : FlowRunReconciler} {key : NamespacedName} {seen : List FlowRun}
    {σ σ' : Stage} {q : Req} {x : Reply q} (h : Past σ) (hmove : Moves r key σ q x σ') :
    Collects seen q x seen ∧ Past σ' := by
  cases hmove with
  | now => exact ⟨.stay trivial, h⟩
  | read | readFails => exact h.elim
  | trigger _ hterm | list _ hterm | delete _ hterm =>
    rw [show _ = false from h] at hterm
    cases hterm
  | check | reread | flow | flowMissing | flowFails | execute | executeNext | release =>
    exact ⟨.stay trivial, trivial⟩
  | _ => exact ⟨.stay trivial, Stage.after_of (fun _ => trivial) fun _ _ => trivial⟩

theorem reconcileFlowRun_collects (r : FlowRunReconciler) (key : NamespacedName) (fr : FlowRun) :
    Follows Collects (Credible r) (fun _ _ => True) [fr] (reconcileFlowRun r key fr) := by
  by_cases hterm : fr.status.phase.terminal = true
  · have hidle : fr.status.phase ≠ .running := by
      intro h
      rw [h] at hterm
      cases hterm
    unfold reconcileFlowRun
    rw [if_neg (fun h => hidle h.2), if_neg (fun h => hidle h.1), if_pos hterm]
    refine Follows.bind (reconcileGC_sparing (List.mem_singleton_self fr) hterm) fun _ x _ => ?_
    cases x with
    | error e => trivial
    | ok requeue =>
      change Follows _ _ _ _ (ite _ _ _)
      split <;> trivial
  · exact Follows.simulated (fun σ _ => Past σ) (@reconcileFlowRun_conforms r key fr)
      (fun h hm => ⟨_, h.collects hm⟩) (by simpa [Past] using hterm)

theorem Controller.collects {r : FlowRunReconciler} {p : Reconciler Unit} (h : Controller r p) :
    Follows Collects (Credible r) (fun _ _ => True) [] p := by
  cases h with
  | call key =>
    have hcall : Follows Collects (Credible r) (fun _ _ => True) [] (reconcile r key) := by
      intro x _
      cases x with
      | error e => exact ⟨[], .stay trivial, by cases e <;> trivial⟩
      | ok fr =>
        exact ⟨[fr], ⟨trivial, fun o ho => .inr ho⟩, reconcileFlowRun_collects r key fr⟩
    exact Follows.bind hcall fun _ _ _ => trivial
  | scan =>
    refine Follows.simulated (fun _ _ => True) (startupScan_follows r) ?_ trivial
    intro _ seen q x _ _ hm
    exact ⟨seen, .stay (by cases hm <;> trivial), trivial⟩

/-! ## What is stored under its name -/

/-- What was once stored as ended is ended, if it is still there. -/
def Final (w : World) : Prop :=
  ∀ o ∈ w.store.versions, o.status.phase.terminal = true → Ended w o.metadata.name

section Steps

variable {r : FlowRunReconciler} {P : Policy} {w w' : World}

theorem Change.versions (h : Change w w') {o : FlowRun} (ho : o ∈ w.store.versions) :
    o ∈ w'.store.versions := by
  cases h with
  | same hs => exact hs ▸ ho
  | @commit stored new _ _ hs =>
    rw [hs]
    rcases Store.versions_commit (K := flowRunKind) w.store stored new with hv | ⟨_, _, hv, _⟩
    · exact hv ▸ ho
    · exact hv ▸ List.mem_cons_of_mem _ ho

theorem Final.change (h : Final w) (hchange : Change w w') (hdesc : Descends w w') :
    Final w' := by
  intro o ho hterm
  have hbefore : o ∈ w.store.versions → Ended w' o.metadata.name :=
    fun hmem => (h o hmem hterm).mono hdesc
  cases hchange with
  | same hs => exact hbefore (hs ▸ ho)
  | @commit stored new hcur hname hs =>
    rw [hs] at ho
    rcases Store.versions_commit (K := flowRunKind) w.store stored new with
      hv | ⟨o', hkey, hv, hnew⟩ <;> rw [hv] at ho
    · exact hbefore ho
    · rcases List.mem_cons.mp ho with rfl | ho
      · refine ended_of_current ?_ hterm
        rw [hs, show o.metadata.name = stored.metadata.name from hkey.trans hname]
        exact hnew
      · exact hbefore ho

theorem Collects.versions {q : Req} {x : Reply q} {seen seen' : List FlowRun}
    (h : Collects seen q x seen') (hwf : w.store.WF flowRunKind)
    (hseen : ∀ o ∈ seen, o ∈ w.store.versions) (hserver : Server r P w q x w') :
    ∀ o ∈ seen', o ∈ w'.store.versions := by
  intro o ho
  refine (hserver.effect hwf).change.versions ?_
  rcases h.2 o ho with hold | hshown
  · exact hseen o hold
  · cases hserver with
    | read hread => exact List.mem_singleton.mp hshown ▸ hread.mem_versions hwf
    | list hlist => exact (hlist o hshown).1.mem_versions hwf
    | _ => cases hshown

theorem final_rules (r : FlowRunReconciler) (P : Policy) :
    Interference (Server r P)
      (fun (s : Stage × List FlowRun) q x t => AnyMoves r s.1 q x t.1 ∧ Collects s.2 q x t.2)
      (Credible r) (Controller r) Users (fun w => w.store.WF flowRunKind ∧ Final w)
      (fun w s => Held r P w s.1 ∧ ∀ o ∈ s.2, o ∈ w.store.versions) where
  honest := server_credible r P
  start _ _ _ hp :=
    ⟨(.idle, []), ⟨trivial, fun _ h => by cases h⟩,
      (hp.follows.both hp.collects).weaken fun _ _ _ => trivial⟩
  own w s q x w' t hshared hheld hserver hmove :=
    have hchange := (hserver.effect hshared.1).change
    ⟨⟨hchange.wf hshared.1, hshared.2.change hchange
        ((hheld.1.refines hshared.1 hserver hmove.1).descends (.refl w))⟩,
      hheld.1.own hshared.1 hserver hmove.1, hmove.2.versions hshared.1 hheld.2 hserver⟩
  others w s q x w' t t' hshared hheld _ hserver _ :=
    have hchange := (hserver.effect hshared.1).change
    ⟨hheld.1.mono fun _ => hchange.seen, fun o ho => hchange.versions (hheld.2 o ho)⟩
  outside w w' hshared huser :=
    have hchange := huser.touched.change
    ⟨⟨hchange.wf hshared.1, hshared.2.change hchange huser.descends⟩, fun s hheld =>
      ⟨hheld.1.mono fun _ => hchange.seen, fun o ho => hchange.versions (hheld.2 o ho)⟩⟩

end Steps

/-- A call that is about to delete a FlowRun has read a version of it that had ended and was not
to be retained, and what is stored under its name has ended by then. Names are not used again here;
calls, scans and users interleave as they like, reads may be old, and writes may fail. -/
theorem deletes_only_ended {r : FlowRunReconciler} {P : Policy} {w : World} {Q : Pool World Reply}
    (hwf : w.store.WF flowRunKind)
    (hversions : ∀ o ∈ w.store.versions, w.store.current o.metadata.name = some o)
    (hrun : Runs r P ⟨w, []⟩ Q) (o : FlowRun) (k : Reply (.delete o) → Reconciler Unit)
    (hcall : .call (.delete o) k ∈ Q.procs) :
    o ∈ Q.world.store.versions ∧ Collectable o ∧ Ended Q.world o.metadata.name := by
  have hinit : Final w := fun o ho hterm => ended_of_current (hversions o ho) hterm
  obtain ⟨⟨_, hfinal⟩, hprocs⟩ :=
    Pool.Covered.run (final_rules r P) ⟨⟨hwf, hinit⟩, fun _ hp => by cases hp⟩ hrun
  obtain ⟨s, ⟨_, hseen⟩, hfollows⟩ := hprocs _ hcall
  obtain ⟨_, ⟨_, ⟨hmem, hold⟩, _⟩, _⟩ := hfollows (.ok ()) trivial
  exact ⟨hseen o hmem, hold, hfinal o (hseen o hmem) hold.ended⟩

def expiredRun : FlowRun where
  metadata := { name := ⟨"default", "import-1"⟩ }
  spec := { flowRef := "import", ttlAfterFinished := some 1 }
  status := { phase := .succeeded, completionTime := some 0 }

theorem deletes_only_ended_expired : expiredRun ∈ (World.single expiredRun 1).store.versions ∧
    Collectable expiredRun ∧ Ended (.single expiredRun 1) expiredRun.metadata.name := by
  have hread : Server plainReconciler (.ofFlow .none chainFlow) (.single expiredRun 1)
      (.getFlowRun expiredRun.metadata.name) (.ok expiredRun) (.single expiredRun 1) := .read rfl
  have hnow : Server plainReconciler (.ofFlow .none chainFlow) (.single expiredRun 1) .now
      (1 : Time) (.single expiredRun 1) := .now (Int.le_refl 1)
  have hrun : Runs plainReconciler (.ofFlow .none chainFlow) ⟨.single expiredRun 1, []⟩ _ :=
    ((Relation.ReflTransGen.single (.spawn (.call expiredRun.metadata.name))).tail
      (@Pool.Step.call _ _ _ _ _ _ _ _ [] [] _ _ _ hread)).tail
      (@Pool.Step.call _ _ _ _ _ _ _ _ [] [] _ _ _ hnow)
  refine deletes_only_ended (World.single_wf rfl) ?_ hrun expiredRun _ (List.mem_singleton.mpr rfl)
  intro o ho
  rw [List.mem_singleton.mp ho]
  rfl

end KubeZap
