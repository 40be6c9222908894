import KubeZap.Api.Types
import KubeZap.Foundation.ReverseIndex
import KubeZap.Foundation.Run

/-! # Index of Secrets

`secretindex.go`: two maps of sets, which stand for the `ReverseIndex` that the watchers are
modelled with. A call holds the lock from its beginning to its end, so the calls of any number of
goroutines are listed in the order in which they took it.
-/

namespace KubeZap

open Foundation

abbrev SetMap := NamespacedName → Option (Finset NamespacedName)

structure Index where
  bySecret : SetMap
  byObject : SetMap

def Index.new : Index := ⟨fun _ => none, fun _ => none⟩

/-- `delete(idx.bySecret[s], objectKey)`, and the set itself once it is empty. -/
def unlink (objectKey : NamespacedName) (bySecret : SetMap) (s : NamespacedName) : SetMap :=
  let set := ((bySecret s).getD ∅).erase objectKey
  Function.update bySecret s (if set = ∅ then none else some set)

def link (objectKey : NamespacedName) (bySecret : SetMap) (s : NamespacedName) : SetMap :=
  Function.update bySecret s (some (insert objectKey ((bySecret s).getD ∅)))

/-- The loop over `idx.byObject[objectKey]` meets its Secrets in the order of `old`. -/
def Index.update (idx : Index) (objectKey : NamespacedName)
    (secretKeys old : List NamespacedName) : Index :=
  let bySecret := old.foldl (unlink objectKey) idx.bySecret
  let byObject := Function.update idx.byObject objectKey none
  if secretKeys = [] then ⟨bySecret, byObject⟩
  else ⟨secretKeys.foldl (link objectKey) bySecret,
    Function.update byObject objectKey (some secretKeys.toFinset)⟩

/-- A call, with what `ObjectsFor` returned. -/
inductive IndexCall
  | update (objectKey : NamespacedName) (secretKeys : List NamespacedName)
  | remove (objectKey : NamespacedName)
  | objectsFor (secretKey : NamespacedName) (objects : List NamespacedName)

def Ranges (set : Option (Finset NamespacedName)) (keys : List NamespacedName) : Prop :=
  keys.Nodup ∧ keys.toFinset = set.getD ∅

inductive Index.Step (idx : Index) : IndexCall → Index → Prop
  | update (o : NamespacedName) (keys old : List NamespacedName) :
      Ranges (idx.byObject o) old → Step idx (.update o keys) (idx.update o keys old)
  | remove (o : NamespacedName) (old : List NamespacedName) :
      Ranges (idx.byObject o) old → Step idx (.remove o) (idx.update o [] old)
  | objectsFor (s : NamespacedName) (objects : List NamespacedName) :
      Ranges (idx.bySecret s) objects → Step idx (.objectsFor s objects) idx

/-- The Secrets of the last `Update` of each object. `Remove` is one without any. -/
def IndexCall.note (last : NamespacedName → List NamespacedName) :
    IndexCall → NamespacedName → List NamespacedName
  | .update o keys => Function.update last o keys
  | .remove o => Function.update last o []
  | .objectsFor .. => last

def lastUpdate (history : List IndexCall) : NamespacedName → List NamespacedName :=
  history.foldl IndexCall.note fun _ => []

/-! ## What the maps stand for -/

variable {r : ReverseIndex NamespacedName NamespacedName} {history : List IndexCall} {idx : Index}

def IndexCall.apply (r : ReverseIndex NamespacedName NamespacedName) :
    IndexCall → ReverseIndex NamespacedName NamespacedName
  | .update o keys => r.update o keys
  | .remove o => r.remove o
  | .objectsFor .. => r

def Index.of (r : ReverseIndex NamespacedName NamespacedName) : Index :=
  ⟨stored ∘ fun s => (r.byKey s).toFinset, stored ∘ fun o => (r.byObject o).toFinset⟩

theorem Index.of_update {o : NamespacedName} {old : List NamespacedName}
    (hold : Ranges ((Index.of r).byObject o) old) (keys : List NamespacedName) :
    (Index.of r).update o keys old = Index.of (r.update o keys) := by
  have hmem (s : NamespacedName) : s ∈ old ↔ s ∈ r.byObject o := by
    rw [← List.mem_toFinset, hold.2]
    simp [Index.of]
  have hunlink : old.foldl (unlink o) (Index.of r).bySecret =
      stored ∘ fun s => (r.cleared o s).toFinset := by
    refine (foldl_stored (g := (·.erase o)) (by simp) (fun _ _ => rfl) _ old).trans ?_
    congr 1
    funext s
    simp only [hmem, ReverseIndex.cleared]
    split
    · ext
      simp [(r.nodup s).mem_erase_iff]
    · rfl
  have hlink : keys.foldl (link o) (stored ∘ fun s => (r.cleared o s).toFinset) =
      (Index.of (r.update o keys)).bySecret := by
    refine (foldl_stored (g := insert o) (by simp) (fun _ _ => by simp [link, stored]) _
      keys).trans ?_
    simp only [Index.of, ReverseIndex.update]
    congr 1
    funext s
    split
    · ext
      simp
    · rfl
  have hobject : Function.update (Index.of r).byObject o (stored keys.toFinset) =
      (Index.of (r.update o keys)).byObject := by
    funext k
    by_cases hk : k = o
    · simp [hk, Index.of]
    · simp [hk, Index.of]
  rw [Index.update, hunlink]
  split
  next hkeys =>
    subst hkeys
    exact congrArg₂ Index.mk hlink hobject
  next hkeys =>
    have hsome : some keys.toFinset = stored keys.toFinset := by simp [stored, hkeys]
    rw [Function.update_idem, hsome]
    exact congrArg₂ Index.mk hlink hobject

theorem lastUpdate_eq (history : List IndexCall) :
    lastUpdate history = (history.foldl IndexCall.apply .empty).byObject := by
  change history.foldl IndexCall.note ReverseIndex.empty.byObject = _
  refine List.foldl_hom ReverseIndex.byObject ?_
  rintro r (_ | _ | _) <;> rfl

theorem Index.of_run (hrun : Run Index.Step .new history idx) :
    idx = Index.of (history.foldl IndexCall.apply .empty) := by
  induction hrun with
  | nil => rfl
  | snoc _ hstep ih =>
    subst ih
    rw [List.foldl_append]
    cases hstep with
    | update o keys old hold => exact Index.of_update hold keys
    | remove o old hold => exact Index.of_update hold []
    | objectsFor => rfl

/-- `ObjectsFor` is exact at every point of the history, and at its end the maps are inverse to
each other and have an entry only for what is in use. -/
theorem secret_index_exact (hrun : Run Index.Step .new history idx) :
    Guarded (fun before call => ∀ s objects, call = .objectsFor s objects →
        objects.Nodup ∧ ∀ o, o ∈ objects ↔ s ∈ lastUpdate before o) history ∧
      (∀ s o, o ∈ (idx.bySecret s).getD ∅ ↔ s ∈ (idx.byObject o).getD ∅) ∧
      (∀ key, idx.bySecret key ≠ some ∅ ∧ idx.byObject key ≠ some ∅) ∧
      (∀ o, idx.byObject o = none ↔ lastUpdate history o = []) ∧
      ∀ s, idx.bySecret s = none ↔ ∀ o, s ∉ lastUpdate history o := by
  refine ⟨?_, ?_⟩
  · induction hrun with
    | nil => exact Guarded.nil _
    | snoc hfront hstep ih =>
      refine ih.snoc ?_
      rintro s objects rfl
      cases hstep with
      | objectsFor s objects hobjects =>
        refine ⟨hobjects.1, fun o => ?_⟩
        rw [← List.mem_toFinset, hobjects.2, Index.of_run hfront, lastUpdate_eq,
          ← ReverseIndex.coherent]
        simp [Index.of]
  · rw [Index.of_run hrun, lastUpdate_eq]
    generalize history.foldl IndexCall.apply .empty = r
    refine ⟨fun s o => ?_, fun key => ⟨stored_ne _, stored_ne _⟩, fun o => ?_, fun s => ?_⟩
    · simp [Index.of, r.coherent]
    · simp [Index.of]
    · simp [Index.of, ← r.coherent, List.eq_nil_iff_forall_not_mem]

def tlsSecret : NamespacedName := ⟨"team", "tls"⟩

def ordersHook : NamespacedName := ⟨"team", "orders"⟩

/-- An object that names a Secret twice is returned once, and leaves nothing when it is removed. -/
theorem orders_indexed_once :
    ∃ idx, Run Index.Step .new [.update ordersHook [tlsSecret, tlsSecret],
        .objectsFor tlsSecret [ordersHook], .remove ordersHook] idx ∧
      idx.byObject ordersHook = none := by
  have hrun : Run Index.Step .new [_, _, _] _ :=
    Run.nil.snoc (.update ordersHook [tlsSecret, tlsSecret] [] ⟨by decide, rfl⟩)
      |>.snoc (.objectsFor tlsSecret [ordersHook] ⟨by decide, by decide⟩)
      |>.snoc (.remove ordersHook [tlsSecret] ⟨by decide, by decide⟩)
  exact ⟨_, hrun, ((secret_index_exact hrun).2.2.2.1 ordersHook).mpr rfl⟩

end KubeZap
