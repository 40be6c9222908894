import KubeZap.Controller.Calls

/-! # A server that can be run

The server as a function: it answers every request at once from its store, and a
`Script` fixes what is open in the relation: the Flows, the answers that steps get,
and the writes it rejects. `Script.serve_sound` makes each simulated call a run of
`Server`, so a history can be computed.
-/

namespace KubeZap

open Foundation
open Foundation.Versioned (Store WriteError)

structure Script where
  flows : NamespacedName → Except ReadError Flow
  /-- the answers to what a step asks -/
  io : StepCall → (q : IoReq) → IoReply q
  rejects : Req → Bool := fun _ => false

/-- Answers to a step: the clock, what becomes of a request to the executor, and
nothing else to be found in the cluster. -/
def stepAnswers (now : Time) (execute : Ctx → ExecuteRequest → ExecutorReply) :
    (q : IoReq) → IoReply q
  | .now => now
  | .getSecret _ => .error (.notFound "not found")
  | .getConfigMap _ => .error (.notFound "not found")
  | .getIntegration _ => .error (.notFound "not found")
  | .checkSSRF _ => none
  | .execute ctx _ req => execute ctx req
  | .sleep _ _ => none
  | .publishToKafka _ _ _ _ => .error (.text "no broker")
  | .pluginPublish _ _ _ => .unbuilt "no plugin"

namespace Script

variable (r : FlowRunReconciler) (s : Script)

def stepRun (c : StepCall) : List (Event IoReply) × Unit × Option (Except Err StepRunStatus) :=
  (executeStep r c).simulate (fun _ q => some (s.io c q, ())) ()

def write (merge : FlowRun → FlowRun → FlowRun) (w : World) (sent : FlowRun) :
    Except WriteError FlowRun × World :=
  ((w.store.write flowRunKind merge sent).1,
    { w with store := (w.store.write flowRunKind merge sent).2 })

def serve (w : World) : (q : Req) → Option (Reply q × World)
  | .now => some (w.clock, w)
  | .getFlowRun key =>
    match w.store.current key with
    | some o => if o.metadata.name = key then some (.ok o, w) else none
    | none => some (.error (.notFound "not found"), w)
  | .listFlowRuns _ _ => some (.ok [], w)
  | .update sent =>
    if s.rejects (.update sent) then some (.error .unavailable, w)
    else some (write flowRunKind.mergeMain w sent)
  | .updateStatus sent =>
    if s.rejects (.updateStatus sent) then some (.error .unavailable, w)
    else some (write flowRunKind.mergeStatus w sent)
  | .delete _ => none
  | .getFlow key => some (s.flows key, w)
  | .getTrigger _ => some (.error (.notFound "not found"), w)
  | .executeStep c => (s.stepRun r c).2.2.map fun x => (⟨x, 0⟩, w)

structure Within (P : Policy) : Prop where
  fresh : P.stale = false
  flows : ∀ k, P.flow k (s.flows k)
  rejects : ∀ q, s.rejects q = true → P.faults ≠ .none

variable {r s}

theorem stepRun_sound {c : StepCall} {x : Except Err StepRunStatus}
    (h : (s.stepRun r c).2.2 = some x) : StepRun r c (s.stepRun r c).1 x := by
  have hrun := @Program.simulate_exec Unit IoReq IoReply _ anyWorld
    (fun _ q => some (s.io c q, ())) (fun _ _ _ _ _ => trivial) () (executeStep r c)
  unfold StepRun
  rw [← h]
  exact hrun

theorem serve_sound {P : Policy} (hs : s.Within P) (w : World) (q : Req) (x : Reply q)
    (w' : World) (h : s.serve r w q = some (x, w')) : Server r P w q x w' := by
  cases q with
  | now =>
    cases h
    exact .now (Int.le_refl _)
  | getFlowRun key =>
    simp only [serve] at h
    split at h
    · rename_i o ho
      split at h
      · rename_i hname
        cases h
        subst hname
        exact .read (by simp [Readable, hs.fresh, ho])
      · cases h
    · rename_i hnone
      cases h
      exact .readMissing _ (.inr hnone)
  | listFlowRuns ns labels =>
    cases h
    exact .list (by simp)
  | update sent =>
    simp only [serve] at h
    split at h <;> cases h
    next hrej => exact .update (.rejected _ (hs.rejects _ hrej))
    · exact .update (.served rfl)
  | updateStatus sent =>
    simp only [serve] at h
    split at h <;> cases h
    next hrej => exact .updateStatus (.rejected _ (hs.rejects _ hrej))
    · exact .updateStatus (.served rfl)
  | delete sent => cases h
  | getFlow key =>
    cases h
    exact .flow (hs.flows key)
  | getTrigger key =>
    cases h
    exact .trigger _
  | executeStep c =>
    simp only [serve, Option.map_eq_some_iff] at h
    obtain ⟨a, ha, ⟨⟩⟩ := h
    exact .executeStep (stepRun_sound ha) (Int.le_refl _)

def call (r : FlowRunReconciler) (s : Script) (key : NamespacedName) (w : World) : Call :=
  let out := (reconcile r key).simulate (s.serve r) w
  ⟨key, w, out.1, out.2.1, out.2.2⟩

@[simp] theorem call_key (key : NamespacedName) (w : World) : (s.call r key w).key = key := rfl

theorem call_exec {P : Policy} (hs : s.Within P) {key : NamespacedName} {w : World}
    {result : Option Result} (h : (s.call r key w).result = result) :
    Exec (Server r P) w (reconcile r key) (s.call r key w).trace (s.call r key w).after
      result := by
  subst h
  exact Program.simulate_exec (serve_sound hs) w (reconcile r key)

theorem history_call {P : Policy} (hs : s.Within P) {key : NamespacedName} {w w' : World}
    {cs : List Call} (h : History r P (s.call r key w).after cs w') :
    History r P w (s.call r key w :: cs) w' :=
  .call (call_exec hs rfl) h

end Script

/-- The library functions on the plain names and texts of a simulation: nothing to
escape when quoting, and no placeholder in the executor's URL. -/
def plainLib : GoLib :=
  { (default : GoLib) with
    quote := fun s => "\"" ++ s ++ "\""
    replaceAll := fun s _ _ => s }

def plainReconciler : FlowRunReconciler where
  lib := plainLib
  executorBaseURL := "http://executor"

def Policy.ofFlow (faults : Faults) (flow : Flow) : Policy where
  stale := false
  faults := faults
  flow _ x := x = .ok flow

end KubeZap
