import KubeZap.Controller.Reconcile

/-! # The API server and the clock

The outside of the controller: a versioned store of FlowRuns with a status
subresource, the Flows, the users who annotate and delete FlowRuns, and time. A
`Policy` says how much may go wrong: whether reads may be stale, whether writes
may fail, and which Flows may be read.
-/

namespace KubeZap

open Foundation
open Foundation.Versioned (Kind Store WriteError)

/-- A write to the main resource keeps the status, one to the status subresource
keeps everything else. Times are stored with whole seconds. -/
def flowRunKind : Kind NamespacedName FlowRun where
  key o := o.metadata.name
  version o := o.metadata.resourceVersion
  withVersion n o := { o with metadata := { o.metadata with resourceVersion := n } }
  mergeMain stored sent :=
    { stored with
      spec := sent.spec
      metadata := { stored.metadata with
        labels := sent.metadata.labels
        annotations := sent.metadata.annotations
        finalizers := sent.metadata.finalizers
        generation :=
          if sent.spec = stored.spec then stored.metadata.generation
          else stored.metadata.generation + 1 } }
  mergeStatus stored sent := { stored with status := sent.status.encode }
  released o := o.metadata.deletionTimestamp.isSome && o.metadata.finalizers.isEmpty
  version_withVersion _ _ := rfl
  key_withVersion _ _ := rfl
  released_withVersion _ _ := rfl
  key_mergeMain _ _ := rfl
  key_mergeStatus _ _ := rfl
  released_mergeStatus _ _ := rfl

structure World where
  store : Store NamespacedName FlowRun
  clock : Time

/-- What may become of a write that the server could accept. -/
inductive Faults
  | none
  /-- it may be rejected, without effect -/
  | rejecting
  /-- it may be rejected, or take effect while its answer is lost -/
  | losing
deriving DecidableEq

structure Policy where
  /-- reads may be served from any version that was ever stored -/
  stale : Bool
  faults : Faults
  /-- the Flows that may be read under a key -/
  flow : NamespacedName → Except ReadError Flow → Prop

def FlowRun.requestDeletion (o : FlowRun) (t : Time) : FlowRun :=
  { o with metadata := { o.metadata with
      deletionTimestamp := some (o.metadata.deletionTimestamp.getD t) } }

def FlowRun.annotate (o : FlowRun) (annotations : StringMap String) : FlowRun :=
  { o with metadata := { o.metadata with annotations := annotations } }

section Environment

variable (r : FlowRunReconciler) (P : Policy)

def Readable (w : World) (o : FlowRun) : Prop :=
  if P.stale then o ∈ w.store.versions else w.store.current o.metadata.name = some o

inductive Writes (merge : FlowRun → FlowRun → FlowRun) (w : World) (sent : FlowRun) :
    Except WriteError FlowRun → World → Prop
  | served {x : Except WriteError FlowRun} {s : Store NamespacedName FlowRun} :
      w.store.write flowRunKind merge sent = (x, s) → Writes merge w sent x { w with store := s }
  | rejected (e : WriteError) : P.faults ≠ .none → Writes merge w sent (.error e) w
  | lost {o : FlowRun} {s : Store NamespacedName FlowRun} (e : WriteError) :
      P.faults = .losing → w.store.write flowRunKind merge sent = (.ok o, s) →
      Writes merge w sent (.error e) { w with store := s }

def matchesLabels (labels : StringMap String) (o : FlowRun) : Prop :=
  ∀ e ∈ labels, o.metadata.labels.lookup e.1 = some e.2

inductive Server : World → (q : Req) → Reply q → World → Prop
  | now {w : World} {t : Time} : w.clock ≤ t → Server w .now t { w with clock := t }
  | read {w : World} {o : FlowRun} : Readable P w o → Server w (.getFlowRun o.metadata.name) (.ok o) w
  | readMissing {w : World} {key : NamespacedName} (msg : String) :
      P.stale = true ∨ w.store.current key = none →
      Server w (.getFlowRun key) (.error (.notFound msg)) w
  | readFails {w : World} {key : NamespacedName} (msg : String) :
      P.faults ≠ .none → Server w (.getFlowRun key) (.error (.other msg)) w
  | list {w : World} {ns : Option String} {labels : StringMap String} {items : List FlowRun} :
      (∀ o ∈ items, Readable P w o ∧ matchesLabels labels o ∧
        ∀ n, ns = some n → o.metadata.name.namespace_ = n) →
      Server w (.listFlowRuns ns labels) (.ok items) w
  | listFails {w : World} {ns : Option String} {labels : StringMap String} (msg : String) :
      P.faults ≠ .none → Server w (.listFlowRuns ns labels) (.error (.other msg)) w
  | update {w w' : World} {sent : FlowRun} {x : Except WriteError FlowRun} :
      Writes P flowRunKind.mergeMain w sent x w' → Server w (.update sent) x w'
  | updateStatus {w w' : World} {sent : FlowRun} {x : Except WriteError FlowRun} :
      Writes P flowRunKind.mergeStatus w sent x w' → Server w (.updateStatus sent) x w'
  | delete {w : World} {sent stored : FlowRun} :
      w.store.current sent.metadata.name = some stored →
      Server w (.delete sent) (.ok ())
        { w with store := (w.store.commit flowRunKind stored (stored.requestDeletion w.clock)).1 }
  | deleteMissing {w : World} {sent : FlowRun} :
      w.store.current sent.metadata.name = none →
      Server w (.delete sent) (.error .notFound) w
  | deleteFails {w : World} {sent : FlowRun} (e : WriteError) :
      P.faults ≠ .none → Server w (.delete sent) (.error e) w
  | flow {w : World} {key : NamespacedName} {x : Except ReadError Flow} :
      P.flow key x → Server w (.getFlow key) x w
  | trigger {w : World} {key : NamespacedName} (x : Except ReadError (Option FlowRunGCPolicy)) :
      Server w (.getTrigger key) x w
  | executeStep {w : World} {c : StepCall} {ret : StepReturn} {t : Time}
      {tr : List (Event IoReply)} :
      StepRun r c tr ret.result → w.clock ≤ t →
      Server w (.executeStep c) ret { w with clock := t }

end Environment

inductive Users : World → World → Prop
  | time {w : World} {t : Time} : w.clock ≤ t → Users w { w with clock := t }
  | annotate {w : World} {stored : FlowRun} (annotations : StringMap String) :
      w.store.current stored.metadata.name = some stored →
      Users w { w with store :=
        (w.store.commit flowRunKind stored (stored.annotate annotations)).1 }
  | delete {w : World} {stored : FlowRun} :
      w.store.current stored.metadata.name = some stored →
      Users w { w with store :=
        (w.store.commit flowRunKind stored (stored.requestDeletion w.clock)).1 }

def World.single (o : FlowRun) (clock : Time) : World where
  store :=
    { current := fun k => if k = o.metadata.name then some o else none
      versions := [o]
      next := o.metadata.resourceVersion + 1 }
  clock := clock

theorem World.single_wf {o : FlowRun} {clock : Time} (h : flowRunKind.released o = false) :
    (World.single o clock).store.WF flowRunKind where
  known k o' ho' := by
    simp only [World.single] at ho' ⊢
    split at ho'
    · rename_i hk
      cases ho'
      exact ⟨List.mem_singleton.mpr rfl, hk.symm, h⟩
    · cases ho'
  below o' ho' := by
    rw [List.mem_singleton.mp ho']
    exact Nat.lt_succ_self _
  unique o₁ h₁ o₂ h₂ _ := by
    rw [List.mem_singleton.mp h₁, List.mem_singleton.mp h₂]

end KubeZap
