import KubeZap.Controller.Refinement

/-! # Terminal states are absorbing

The first consequence of the refinement. Nothing is assumed about what reads
return or which writes fail: a read may be as old as it likes, since a write
computed from it is only accepted while its version is current.
-/

namespace KubeZap

open Foundation

structure Absorbs (old new : FlowRunStatus) : Prop where
  phase : old.phase.terminal = true → new.phase = old.phase
  steps : KeepsTerminal old.steps new.steps

theorem Absorbs.refl (s : FlowRunStatus) : Absorbs s s := ⟨fun _ => rfl, .refl _⟩

theorem Absorbs.transition {r : FlowRunReconciler} {flows : Flow → Prop} {spec : FlowRunSpec}
    {first old new : FlowRunStatus} (h : Absorbs first old)
    (htrans : Transition r flows spec old new) : Absorbs first new.encode := by
  obtain ⟨hactive, hkeeps⟩ := htrans.keeps
  refine ⟨fun hterm => ?_, h.steps.trans (hkeeps.trans (.encode _))⟩
  -- the machine does not move once the phase is terminal
  rw [h.phase hterm, hterm] at hactive
  cases hactive

/-- Every FlowRun stored later was stored under the same name before, with the same
phase if that was terminal and with every terminal entry of its steps. -/
theorem stored_absorbing {r : FlowRunReconciler} {P : Policy} {w : World}
    {Q₁ Q₂ : Pool World Reply} (hwf : w.store.WF flowRunKind) (h₁ : Runs r P ⟨w, []⟩ Q₁)
    (h₂ : Runs r P Q₁ Q₂) (k : NamespacedName) (o₂ : FlowRun)
    (ho₂ : Q₂.world.store.current k = some o₂) :
    ∃ o₁, Q₁.world.store.current k = some o₁ ∧ Absorbs o₁.status o₂.status := by
  let I : NamespacedName → FlowRunSpec → FlowRunStatus → Prop := fun k _ status =>
    ∃ o₁, Q₁.world.store.current k = some o₁ ∧ Absorbs o₁.status status
  have hI : Preserved r P I := fun k spec old new ⟨o₁, ho₁, habs⟩ htrans =>
    ⟨o₁, ho₁, habs.transition htrans⟩
  obtain ⟨⟨hwf₁, _⟩, hprocs⟩ := Runs.underway (I := fun _ _ _ => True)
    (fun _ _ _ _ _ _ => trivial) hwf (fun _ _ _ => trivial) h₁
  have hcov : Underway r P I Q₁ := ⟨⟨hwf₁, fun k o ho => ⟨o, ho, .refl _⟩⟩, hprocs⟩
  exact (hcov.run (refinement hI) h₂).1.2 k o₂ ho₂

def endedRun : FlowRun where
  metadata := { name := ⟨"default", "ended"⟩ }
  spec := { flowRef := "flow" }
  status :=
    { phase := .succeeded
      steps := [{ name := "notify", phase := .succeeded, results := [⟨"status", "200"⟩] }] }

def retention : StringMap String := StringMap.set [] retainAnnotation annotationValueTrue

def retainedRun : FlowRun := flowRunKind.withVersion 1 (endedRun.annotate retention)

def retainedWorld : World :=
  { World.single endedRun 0 with
    store := ((World.single endedRun 0).store.commit flowRunKind endedRun
      (endedRun.annotate retention)).1 }

/-- Stale reads, lost answers and any Flow: a call is under way while a user annotates. -/
theorem stored_absorbing_retained :
    ∃ o₁, (World.single endedRun 0).store.current ⟨"default", "ended"⟩ = some o₁ ∧
      Absorbs o₁.status retainedRun.status := by
  have hstored : retainedWorld.store.current ⟨"default", "ended"⟩ = some retainedRun := by
    decide +kernel
  have hrun : Runs { lib := default } ⟨true, .losing, fun _ _ => True⟩ ⟨.single endedRun 0, []⟩
      ⟨retainedWorld, [reconcile { lib := default } ⟨"default", "ended"⟩ >>= fun _ => pure ()]⟩ :=
    .head (.spawn (.call _)) (.single (.move (.annotate _ rfl)))
  exact stored_absorbing (World.single_wf rfl) .refl hrun _ retainedRun hstored

end KubeZap
