import KubeZap.Api.Triggered
import KubeZap.Foundation.NamedStore

/-! # The FlowRuns that a broker gateway meets

A gateway for a broker names the FlowRun of a delivery itself and takes an existing one
of that name for its own work. Here is the cluster as such a gateway sees it: what its
`Create` may be answered, and what everybody else may do to FlowRuns.
-/

namespace KubeZap

open Foundation Function

structure BrokerLib extends BytesLib where
  /-- `strings.ToLower` -/
  toLower : String → String
deriving Inhabited

/-- The FlowRuns, and which of them the gateways made from which delivery. -/
abbrev FlowRunStore (M : Type) := NamedStore NamespacedName FlowRun M

namespace FlowRunStore

variable {M : Type} {s s' : FlowRunStore M} {origin : M} {run : FlowRun} {reply : CreateReply}

/-- The answers to a `Create`. An error other than AlreadyExists may come before or after the
object was stored. -/
inductive Create (s : FlowRunStore M) (origin : M) (run : FlowRun) :
    CreateReply → FlowRunStore M → Prop
  | created : s.held run.metadata.name = none →
      Create s origin run .created (s.create origin run.metadata.name run)
  | alreadyExists : (s.held run.metadata.name).isSome → Create s origin run .alreadyExists s
  | failed (err : String) : Create s origin run (.failed err) s
  | unanswered (err : String) : s.held run.metadata.name = none →
      Create s origin run (.failed err) (s.create origin run.metadata.name run)

/-- Nobody deletes a FlowRun or changes its spec. -/
inductive Elsewhere (s : FlowRunStore M) : FlowRunStore M → Prop
  | create {key : NamespacedName} {run : FlowRun} : s.held key = none → Elsewhere s (s.place key run)
  | status {key : NamespacedName} {run : FlowRun} (status : FlowRunStatus) :
      s.held key = some run → Elsewhere s (s.place key { run with status := status })

def Has (s : FlowRunStore M) (key : NamespacedName) (p : FlowRunSpec → Prop) : Prop :=
  ∃ run, s.held key = some run ∧ p run.spec

variable {p : M → NamespacedName → FlowRunSpec → Prop}

/-- What was made from a delivery is there under its name, with a spec that `p` allows. -/
abbrev Coherent (p : M → NamespacedName → FlowRunSpec → Prop) (s : FlowRunStore M) : Prop :=
  NamedStore.Coherent (fun m key run => p m key run.spec) s

theorem Create.coherent (h : Create s origin run reply s') (hs : Coherent p s)
    (hrun : p origin run.metadata.name run.spec) : Coherent p s' := by
  cases h with
  | created hfree | unanswered err hfree => exact hs.create hfree hrun
  | alreadyExists | failed => exact hs

theorem Create.has {key : NamespacedName} {q : FlowRunSpec → Prop}
    (h : Create s origin run reply s') (hkey : Has s key q) : Has s' key q := by
  obtain ⟨old, hheld, hq⟩ := hkey
  have hne : s.held run.metadata.name = none → key ≠ run.metadata.name := by
    rintro hfree rfl
    rw [hfree] at hheld
    cases hheld
  cases h with
  | created hfree | unanswered err hfree =>
    exact ⟨old, (update_of_ne (hne hfree) ..).trans hheld, hq⟩
  | alreadyExists | failed => exact ⟨old, hheld, hq⟩

theorem Create.made (h : Create s origin run reply s') : s.made ⊆ s'.made := by
  cases h with
  | created | unanswered => exact List.subset_append_left _ _
  | alreadyExists | failed => exact List.Subset.refl _

theorem Create.held_or_made (h : Create s origin run reply s') {key : NamespacedName}
    (hkey : (s'.held key).isSome) : (s.held key).isSome ∨ (origin, key) ∈ s'.made := by
  have hcreate : ((s.create origin run.metadata.name run).held key).isSome →
      (s.held key).isSome ∨ (origin, key) ∈ (s.create origin run.metadata.name run).made := by
    by_cases hk : key = run.metadata.name
    · subst hk
      exact fun _ => .inr (List.mem_append_right _ (List.mem_singleton_self _))
    · intro hheld
      simp only [NamedStore.create, update_of_ne hk] at hheld
      exact .inl hheld
  cases h with
  | created | unanswered => exact hcreate hkey
  | alreadyExists | failed => exact .inl hkey

theorem Elsewhere.made (h : Elsewhere s s') : s'.made = s.made := by
  cases h <;> rfl

theorem Elsewhere.coherent (h : Elsewhere s s') (hs : Coherent p s) : Coherent p s' := by
  cases h with
  | create hfree => exact hs.place fun m hmem => absurd hmem (hs.not_made hfree m)
  | @status key run status hheld =>
    refine hs.place fun m hmem => ?_
    obtain ⟨old, hold, hp⟩ := hs.kept m key hmem
    cases hheld.symm.trans hold
    exact hp

theorem Elsewhere.has {key : NamespacedName} {q : FlowRunSpec → Prop} (h : Elsewhere s s')
    (hkey : Has s key q) : Has s' key q := by
  obtain ⟨old, hheld, hq⟩ := hkey
  cases h with
  | @create key' run hfree =>
    have hne : key ≠ key' := by
      rintro rfl
      rw [hfree] at hheld
      cases hheld
    exact ⟨old, (update_of_ne hne ..).trans hheld, hq⟩
  | @status key' run status hold =>
    by_cases hk : key = key'
    · subst hk
      cases hheld.symm.trans hold
      exact ⟨_, update_self .., hq⟩
    · exact ⟨old, (update_of_ne hk ..).trans hheld, hq⟩

/-! ## Names of one's own -/

/-- Whatever has a name of the gateway's own was made by the gateway. -/
def Owned (own : NamespacedName → Prop) (s : FlowRunStore M) : Prop :=
  ∀ key, own key → (s.held key).isSome → ∃ m, (m, key) ∈ s.made

/-- No name of the gateway's own is taken. -/
def Spares (own : NamespacedName → Prop) (s s' : FlowRunStore M) : Prop :=
  ∀ key, own key → (s'.held key).isSome → (s.held key).isSome

variable {own : NamespacedName → Prop}

theorem Owned.empty : Owned own (NamedStore.empty : FlowRunStore M) := fun _ _ => nofun

theorem Owned.create (hs : Owned own s) (h : Create s origin run reply s') : Owned own s' := by
  intro key hkey hheld
  rcases h.held_or_made hheld with hold | hnew
  · obtain ⟨m, hm⟩ := hs key hkey hold
    exact ⟨m, h.made hm⟩
  · exact ⟨origin, hnew⟩

theorem Owned.elsewhere (hs : Owned own s) (h : Elsewhere s s') (hspares : Spares own s s') :
    Owned own s' := by
  intro key hkey hheld
  obtain ⟨m, hm⟩ := hs key hkey (hspares key hkey hheld)
  exact ⟨m, h.made ▸ hm⟩

theorem Create.held (h : Create s origin run reply s') (hreply : ∀ err, reply ≠ .failed err) :
    (s'.held run.metadata.name).isSome := by
  cases h with
  | created => simp [NamedStore.create]
  | alreadyExists htaken => exact htaken
  | failed err | unanswered err => exact absurd rfl (hreply err)

end FlowRunStore

end KubeZap
