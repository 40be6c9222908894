import KubeZap.Controller.Conformance

/-! # What a request does to the store

Inversion of the server: a request leaves the stored specs and statuses alone, or
is a write that was computed from the stored version and took effect. A FlowRun in
the controller's memory is `Seen` when the server once stored it under the version
it carries; while that version is current, it is the stored one.
-/

namespace KubeZap

open Foundation
open Foundation.Versioned (Kind Store WriteError)

/-! ## Objects in memory -/

/-- `fr` is the stored object `o` as the controller holds it: labels, annotations
and finalizers may differ. -/
def Holds (o fr : FlowRun) : Prop :=
  ∃ labels annotations finalizers, fr =
    { o with metadata := { o.metadata with
        labels := labels, annotations := annotations, finalizers := finalizers } }

namespace Holds

theorem refl (o : FlowRun) : Holds o o := ⟨_, _, _, rfl⟩

variable {o fr : FlowRun} (h : Holds o fr)

include h

theorem status : fr.status = o.status := by obtain ⟨_, _, _, rfl⟩ := h; rfl
theorem spec : fr.spec = o.spec := by obtain ⟨_, _, _, rfl⟩ := h; rfl
theorem name : fr.metadata.name = o.metadata.name := by obtain ⟨_, _, _, rfl⟩ := h; rfl
theorem version : fr.metadata.resourceVersion = o.metadata.resourceVersion := by
  obtain ⟨_, _, _, rfl⟩ := h; rfl
theorem addFinalizer : Holds o fr.addFinalizer := by
  obtain ⟨_, _, _, rfl⟩ := h; exact ⟨_, _, _, rfl⟩
theorem removeFinalizer : Holds o fr.removeFinalizer := by
  obtain ⟨_, _, _, rfl⟩ := h; exact ⟨_, _, _, rfl⟩
theorem setPhaseLabel (phase : FlowRunPhase) : Holds o (fr.setPhaseLabel phase) := by
  obtain ⟨_, _, _, rfl⟩ := h; exact ⟨_, _, _, rfl⟩

end Holds

/-- The server stored `fr` once, under the version it carries. -/
def Seen (w : World) (fr : FlowRun) : Prop :=
  ∃ o, w.store.Pins flowRunKind o ∧ Holds o fr

variable {w : World}

theorem Seen.stored {fr stored : FlowRun} (hwf : w.store.WF flowRunKind) (hseen : Seen w fr)
    (hcur : w.store.current fr.metadata.name = some stored)
    (hver : fr.metadata.resourceVersion = stored.metadata.resourceVersion) : Holds stored fr := by
  obtain ⟨o, hpins, hholds⟩ := hseen
  have heq : stored = o := hpins.2 stored (hwf.known _ _ hcur).1 (by
    change stored.metadata.resourceVersion = o.metadata.resourceVersion
    rw [← hver, hholds.version])
  rw [heq]
  exact hholds

theorem Seen.imp {fr fr' : FlowRun} (h : Seen w fr)
    (himp : ∀ o, Holds o fr → Holds o fr') : Seen w fr' := by
  obtain ⟨o, hpins, hholds⟩ := h
  exact ⟨o, hpins, himp o hholds⟩

/-! ## Writes -/

/-- A write that was computed from the stored version and took effect. -/
structure Accepted (merge : FlowRun → FlowRun → FlowRun) (w : World) (sent stored : FlowRun)
    (w' : World) : Prop where
  current : w.store.current sent.metadata.name = some stored
  name_eq : stored.metadata.name = sent.metadata.name
  version : sent.metadata.resourceVersion = stored.metadata.resourceVersion
  store : w'.store = (w.store.commit flowRunKind stored (merge stored sent)).1

variable {merge : FlowRun → FlowRun → FlowRun} {w' : World} {sent : FlowRun}

theorem Accepted.current_stored {stored : FlowRun} (h : Accepted merge w sent stored w') :
    w.store.current (flowRunKind.key stored) = some stored := by
  change w.store.current stored.metadata.name = some stored
  rw [h.name_eq]
  exact h.current

variable {P : Policy}

theorem Writes.inv {x : Except WriteError FlowRun} (h : Writes P merge w sent x w')
    (hwf : w.store.WF flowRunKind) :
    (w' = w ∧ ∃ e, x = .error e) ∨ ∃ stored, Accepted merge w sent stored w' ∧
      ∀ o, x = .ok o → o = (w.store.commit flowRunKind stored (merge stored sent)).2 := by
  cases h with
  | @served x s hw =>
    cases x with
    | error e =>
      have := Store.write_error hw
      subst this
      exact .inl ⟨rfl, e, rfl⟩
    | ok o =>
      obtain ⟨stored, hcur, hver, hs, ho⟩ := Store.write_ok hw
      exact .inr ⟨stored, ⟨hcur, (hwf.known _ _ hcur).2.1, hver, hs⟩, fun o' ho' => by
        cases ho'; exact ho⟩
  | rejected e _ => exact .inl ⟨rfl, e, rfl⟩
  | @lost o s e _ hw =>
    obtain ⟨stored, hcur, hver, hs, ho⟩ := Store.write_ok hw
    exact .inr ⟨stored, ⟨hcur, (hwf.known _ _ hcur).2.1, hver, hs⟩, fun o' ho' => by cases ho'⟩

theorem Writes.accepted {answer : FlowRun} (h : Writes P merge w sent (.ok answer) w')
    (hwf : w.store.WF flowRunKind) :
    ∃ stored, Accepted merge w sent stored w' ∧
      answer = (w.store.commit flowRunKind stored (merge stored sent)).2 ∧
      ∃ n, answer = flowRunKind.withVersion n (merge stored sent) := by
  rcases h.inv hwf with ⟨_, e, he⟩ | ⟨stored, hacc, hans⟩
  · cases he
  · have hanswer := hans answer rfl
    obtain ⟨n, hn⟩ := Store.commit_answer (K := flowRunKind) w.store stored (merge stored sent)
    exact ⟨stored, hacc, hanswer, n, hanswer.trans hn⟩

theorem Writes.answer {answer : FlowRun} (h : Writes P merge w sent (.ok answer) w') :
    ∃ stored n, answer = flowRunKind.withVersion n (merge stored sent) := by
  cases h with
  | served hw =>
    obtain ⟨stored, _, _, _, rfl⟩ := Store.write_ok hw
    exact ⟨stored, Store.commit_answer _ _ _⟩

/-- A write has no effect, or takes effect and is answered so, or takes effect while its answer
is lost. -/
theorem Writes.effect {x : Except WriteError FlowRun} (hwf : w.store.WF flowRunKind)
    (hw : Writes P merge w sent x w') :
    (w' = w ∧ ∃ e, x = .error e) ∨ ∃ stored, Accepted merge w sent stored w' ∧
      ((∃ answer n, x = .ok answer ∧ answer = flowRunKind.withVersion n (merge stored sent)) ∨
        P.faults = .losing ∧ ∃ e, x = .error e) := by
  cases x with
  | error e =>
    cases hw with
    | served hserved =>
      have := Store.write_error hserved
      subst this
      exact .inl ⟨rfl, e, rfl⟩
    | rejected _ _ => exact .inl ⟨rfl, e, rfl⟩
    | lost _ hlose hserved =>
      obtain ⟨stored, hcur, hver, hs, _⟩ := Store.write_ok hserved
      exact .inr ⟨stored, ⟨hcur, (hwf.known _ _ hcur).2.1, hver, hs⟩, .inr ⟨hlose, e, rfl⟩⟩
  | ok answer =>
    obtain ⟨stored, hacc, _, n, hanswer⟩ := hw.accepted hwf
    exact .inr ⟨stored, hacc, .inl ⟨answer, n, rfl, hanswer⟩⟩

theorem Writes.seen {answer : FlowRun} (h : Writes P merge w sent (.ok answer) w')
    (hwf : w.store.WF flowRunKind) : Seen w' answer := by
  obtain ⟨stored, hacc, hanswer, _⟩ := h.accepted hwf
  refine ⟨answer, ?_, .refl answer⟩
  rw [hanswer, hacc.store]
  exact hwf.pins_commit hacc.current_stored

/-! ## Effects -/

/-- `o'` is `o` up to its version, its annotations and the request to delete it. -/
structure Kept (o o' : FlowRun) : Prop where
  spec : o'.spec = o.spec
  status : o'.status = o.status
  labels : o'.metadata.labels = o.metadata.labels
  finalizers : o'.metadata.finalizers = o.metadata.finalizers

theorem Kept.refl (o : FlowRun) : Kept o o := ⟨rfl, rfl, rfl, rfl⟩

theorem kept_requestDeletion (o : FlowRun) (t : Time) : Kept o (o.requestDeletion t) :=
  ⟨rfl, rfl, rfl, rfl⟩

/-- The store stays, or one object is annotated or to be deleted, which may release it. -/
inductive Touched (w w' : World) : Prop
  | same : w'.store = w.store → Touched w w'
  | commit {stored new : FlowRun} : w.store.current stored.metadata.name = some stored →
      new.metadata.name = stored.metadata.name → Kept stored new →
      w'.store = (w.store.commit flowRunKind stored new).1 → Touched w w'

/-- What the request `q` did to the store. -/
inductive Effect (w : World) (q : Req) (w' : World) : Prop
  | touched : Touched w w' → Effect w q w'
  | update {sent stored : FlowRun} : q = .update sent →
      Accepted flowRunKind.mergeMain w sent stored w' → Effect w q w'
  | updateStatus {sent stored : FlowRun} : q = .updateStatus sent →
      Accepted flowRunKind.mergeStatus w sent stored w' → Effect w q w'

theorem Server.effect {r : FlowRunReconciler} {q : Req} {x : Reply q} (h : Server r P w q x w')
    (hwf : w.store.WF flowRunKind) : Effect w q w' := by
  cases h with
  | now | read | readMissing | readFails | list | listFails | deleteMissing | deleteFails | flow
  | trigger | executeStep => exact .touched (.same rfl)
  | update hw =>
    rcases hw.inv hwf with ⟨rfl, _⟩ | ⟨stored, hacc, _⟩
    · exact .touched (.same rfl)
    · exact .update rfl hacc
  | updateStatus hw =>
    rcases hw.inv hwf with ⟨rfl, _⟩ | ⟨stored, hacc, _⟩
    · exact .touched (.same rfl)
    · exact .updateStatus rfl hacc
  | @delete sent stored hcur =>
    have hkey : stored.metadata.name = sent.metadata.name := (hwf.known _ _ hcur).2.1
    exact .touched (@Touched.commit _ _ stored (stored.requestDeletion w.clock)
      (by rw [hkey]; exact hcur) rfl (kept_requestDeletion _ _) rfl)

theorem Server.touched {r : FlowRunReconciler} {q : Req} {x : Reply q} (h : Server r P w q x w')
    (hwf : w.store.WF flowRunKind) (hmain : ∀ sent, q ≠ .update sent)
    (hstatus : ∀ sent, q ≠ .updateStatus sent) : Touched w w' := by
  cases h.effect hwf with
  | touched ht => exact ht
  | update hq _ => exact absurd hq (hmain _)
  | updateStatus hq _ => exact absurd hq (hstatus _)

theorem Users.touched (h : Users w w') : Touched w w' := by
  cases h with
  | time _ => exact .same rfl
  | @annotate stored annotations hcur =>
    exact @Touched.commit _ _ stored (stored.annotate annotations) hcur rfl
      ⟨rfl, rfl, rfl, rfl⟩ rfl
  | @delete stored hcur =>
    exact @Touched.commit _ _ stored (stored.requestDeletion w.clock) hcur rfl
      (kept_requestDeletion _ _) rfl

inductive Change (w w' : World) : Prop
  | same : w'.store = w.store → Change w w'
  | commit {stored new : FlowRun} : w.store.current stored.metadata.name = some stored →
      new.metadata.name = stored.metadata.name →
      w'.store = (w.store.commit flowRunKind stored new).1 → Change w w'

theorem Touched.change (h : Touched w w') : Change w w' := by
  cases h with
  | same hs => exact .same hs
  | commit hcur hkey _ hs => exact .commit hcur hkey hs

theorem Accepted.change {stored : FlowRun} (h : Accepted merge w sent stored w')
    (hmerge : ∀ c o, (merge c o).metadata.name = c.metadata.name) : Change w w' :=
  .commit h.current_stored (hmerge _ _) h.store

theorem Effect.change {q : Req} (h : Effect w q w') : Change w w' := by
  cases h with
  | touched ht => exact ht.change
  | update _ hacc => exact hacc.change flowRunKind.key_mergeMain
  | updateStatus _ hacc => exact hacc.change flowRunKind.key_mergeStatus

theorem Change.wf (h : Change w w') (hwf : w.store.WF flowRunKind) : w'.store.WF flowRunKind := by
  cases h with
  | same hs => rw [hs]; exact hwf
  | commit _ hkey hs => rw [hs]; exact hwf.commit hkey

theorem Change.seen {fr : FlowRun} (h : Change w w') (hseen : Seen w fr) : Seen w' fr := by
  obtain ⟨o, hpins, hholds⟩ := hseen
  cases h with
  | same hs => exact ⟨o, by rw [hs]; exact hpins, hholds⟩
  | commit _ _ hs => exact ⟨o, by rw [hs]; exact hpins.commit _ _, hholds⟩

variable {o : FlowRun}

theorem Readable.current (h : Readable P w o)
    (hfresh : P.stale = false) : w.store.current o.metadata.name = some o := by
  simpa [Readable, hfresh] using h

theorem Readable.mem_versions (h : Readable P w o)
    (hwf : w.store.WF flowRunKind) : o ∈ w.store.versions := by
  unfold Readable at h
  split at h
  · exact h
  · exact (hwf.known _ _ h).1

theorem Readable.seen (h : Readable P w o) (hwf : w.store.WF flowRunKind) : Seen w o :=
  ⟨o, hwf.pins (h.mem_versions hwf), .refl o⟩

/-! ## What is stored after a step -/

theorem Touched.current {k : NamespacedName} (h : Touched w w')
    (ho : w'.store.current k = some o) : ∃ o', w.store.current k = some o' ∧ Kept o' o := by
  cases h with
  | same hs => exact ⟨o, by rw [← hs]; exact ho, .refl o⟩
  | @commit stored new hcur _ hkept hs =>
    rw [hs] at ho
    rcases Store.current_commit (K := flowRunKind) hcur ho with ⟨rfl, n, rfl⟩ | ⟨_, ho⟩
    · exact ⟨stored, hcur, hkept.spec, hkept.status, hkept.labels, hkept.finalizers⟩
    · exact ⟨o, ho, .refl o⟩

theorem Touched.versions (h : Touched w w') (hwf : w.store.WF flowRunKind)
    (ho : o ∈ w'.store.versions) : ∃ o' ∈ w.store.versions, Kept o' o := by
  cases h with
  | same hs => exact ⟨o, by rw [← hs]; exact ho, .refl o⟩
  | @commit stored new hcur _ hkept hs =>
    rw [hs] at ho
    rcases Store.mem_versions_commit ho with ho | ⟨n, rfl⟩
    · exact ⟨o, ho, .refl o⟩
    · exact ⟨stored, (hwf.known _ _ hcur).1, hkept.spec, hkept.status, hkept.labels,
        hkept.finalizers⟩

theorem Accepted.stored {stored : FlowRun} {k : NamespacedName}
    (h : Accepted merge w sent stored w') (ho : w'.store.current k = some o) :
    (k = sent.metadata.name ∧ ∃ n, o = flowRunKind.withVersion n (merge stored sent)) ∨
      (k ≠ sent.metadata.name ∧ w.store.current k = some o) := by
  rw [h.store] at ho
  have hcases := Store.current_commit (K := flowRunKind) h.current_stored ho
  have hkey : flowRunKind.key stored = sent.metadata.name := h.name_eq
  rwa [hkey] at hcases

theorem Effect.current {q : Req} {k : NamespacedName} (h : Effect w q w')
    (ho : w'.store.current k = some o) :
    ∃ o', w.store.current k = some o' ∧
      (Kept o' o ∨
      (∃ sent, q = .update sent ∧ Accepted flowRunKind.mergeMain w sent o' w' ∧
        k = sent.metadata.name ∧ o.spec = sent.spec ∧ o.status = o'.status) ∨
      ∃ sent, q = .updateStatus sent ∧ Accepted flowRunKind.mergeStatus w sent o' w' ∧
        k = sent.metadata.name ∧ o.spec = o'.spec ∧ o.status = sent.status.encode) := by
  cases h with
  | touched ht =>
    obtain ⟨o', ho', hkept⟩ := ht.current ho
    exact ⟨o', ho', .inl hkept⟩
  | @update sent stored hq hacc =>
    rcases hacc.stored ho with ⟨rfl, n, rfl⟩ | ⟨_, ho⟩
    · exact ⟨stored, hacc.current, .inr (.inl ⟨sent, hq, hacc, rfl, rfl, rfl⟩)⟩
    · exact ⟨o, ho, .inl (.refl o)⟩
  | @updateStatus sent stored hq hacc =>
    rcases hacc.stored ho with ⟨rfl, n, rfl⟩ | ⟨_, ho⟩
    · exact ⟨stored, hacc.current, .inr (.inr ⟨sent, hq, hacc, rfl, rfl, rfl⟩)⟩
    · exact ⟨o, ho, .inl (.refl o)⟩

/-! ## Replies -/

theorem server_credible (r : FlowRunReconciler) (P : Policy) :
    Env.Credible (Server r P) (Credible r) := by
  intro w q x w' h
  cases h with
  | @updateStatus w' sent x hw =>
    cases x with
    | error e => trivial
    | ok answer =>
      obtain ⟨stored, n, rfl⟩ := hw.answer
      rfl
  | executeStep hrun _ => exact ⟨_, hrun⟩
  | _ => trivial

end KubeZap
