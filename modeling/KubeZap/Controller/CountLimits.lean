import KubeZap.Foundation.Newest
import KubeZap.Controller.Server

/-! # Count limits

A Trigger limits how many of its succeeded and of its failed FlowRuns are kept.
Against a server whose reads are fresh and whose deletes succeed, `reconcileGC`
is followed through both limits: what each of them removes, what is left of the
FlowRuns it is about, and that everything else stays. The TTL rule acts after
them, on the reconciled FlowRun alone.
-/

namespace KubeZap

open Foundation

/-- The FlowRuns that a limit is about: those of the Trigger that are in the phase
and do not carry the retain annotation. -/
def limited (triggerName namespace_ : String) (phase : FlowRunPhase) (o : FlowRun) : Bool :=
  o.metadata.name.namespace_ == namespace_ &&
    o.metadata.labels.lookup labelTrigger == some triggerName &&
    o.status.phase == phase && !retained o

def phaseLabelled (phase : FlowRunPhase) (o : FlowRun) : Bool :=
  o.metadata.labels.lookup labelPhase == some phase.text

def FlowRunGCPolicy.limit (policy : FlowRunGCPolicy) : FlowRunPhase → Option Int
  | .succeeded => policy.maxSucceeded
  | .failed => policy.maxFailed
  | _ => none

def World.Holds (w : World) (o : FlowRun) : Prop := w.store.current o.metadata.name = some o

instance (w : World) : DecidablePred w.Holds := fun o =>
  inferInstanceAs (Decidable (w.store.current o.metadata.name = some o))

structure Enumerates (w : World) (objects : List FlowRun) : Prop where
  nodup : objects.Nodup
  mem_iff : ∀ o, o ∈ objects ↔ w.Holds o

/-! ## FreshServer reads and successful deletes -/

def freshPolicy : Policy where
  stale := false
  faults := .none
  flow _ _ := False

/-- A list is complete, a Trigger is there, and a deleted object is gone. -/
def Exact (policies : NamespacedName → Option FlowRunGCPolicy) (w : World) :
    (q : Req) → Reply q → World → Prop
  | .listFlowRuns ns labels, .ok items, _ =>
    items.Nodup ∧ ∀ o, w.Holds o → matchesLabels labels o →
      (∀ n, ns = some n → o.metadata.name.namespace_ = n) → o ∈ items
  | .getTrigger key, x, _ => x = .ok (policies key)
  | .delete sent, _, w' => w'.store.current sent.metadata.name = none
  | _, _, _ => True

def FreshServer (r : FlowRunReconciler) (policies : NamespacedName → Option FlowRunGCPolicy) :
    Env World Reply :=
  fun w q x w' => Server r freshPolicy w q x w' ∧ Exact policies w q x w'

def Removed (names : List NamespacedName) (w w' : World) : Prop :=
  ∀ key, w'.store.current key = if key ∈ names then none else w.store.current key

theorem Removed.nil (w : World) : Removed [] w w := by
  intro key
  simp

variable {names : List NamespacedName}

theorem Removed.append {names' : List NamespacedName} {w w₁ w' : World} (h : Removed names w w₁)
    (h' : Removed names' w₁ w') : Removed (names ++ names') w w' := by
  intro key
  rw [h' key, h key]
  by_cases hk : key ∈ names <;> by_cases hk' : key ∈ names' <;> simp [hk, hk']

def World.Named (w : World) : Prop :=
  ∀ key o, w.store.current key = some o → o.metadata.name = key

theorem Removed.named {w w' : World} (h : Removed names w w') (hw : w.Named) : w'.Named := by
  intro key o ho
  rw [h key] at ho
  split at ho
  · cases ho
  · exact hw key o ho

theorem Removed.holds_iff {w w' : World} (h : Removed names w w')
    (o : FlowRun) : w'.Holds o ↔ w.Holds o ∧ o.metadata.name ∉ names := by
  unfold World.Holds
  rw [h o.metadata.name]
  by_cases ho : o.metadata.name ∈ names <;> simp [ho]

theorem World.Holds.eq_of_name {w : World} {o o' : FlowRun} (h : w.Holds o) (h' : w.Holds o')
    (hname : o.metadata.name = o'.metadata.name) : o = o' := by
  unfold World.Holds at h h'
  rw [hname, h'] at h
  exact (Option.some.inj h).symm

section Runs

variable {r : FlowRunReconciler} {policies : NamespacedName → Option FlowRunGCPolicy}

variable {w w' : World} {o : FlowRun}

theorem FreshServer.delete {x : Reply (.delete o)} (hw : w.Named)
    (h : FreshServer r policies w (.delete o) x w') :
    Removed [o.metadata.name] w w' ∧ (x = .ok () ∨ x = .error .notFound) := by
  obtain ⟨hserver, hgone⟩ := h
  change w'.store.current o.metadata.name = none at hgone
  -- nothing else is touched, whether or not it was there
  have hremoved : (∀ key, key ≠ o.metadata.name → w'.store.current key = w.store.current key) →
      Removed [o.metadata.name] w w' := by
    intro hother key
    by_cases hk : key = o.metadata.name
    · simpa [hk] using hgone
    · rw [hother key hk, if_neg (by simpa using hk)]
  cases hserver with
  | delete hstored =>
    refine ⟨hremoved fun key hk => ?_, .inl rfl⟩
    exact Versioned.Store.commit_other _ _ _ fun heq => hk (heq.trans (hw _ _ hstored))
  | deleteMissing hnone => exact ⟨hremoved fun _ _ => rfl, .inr rfl⟩
  | deleteFails e hfault => exact absurd rfl hfault

variable {x : Except ApiError Unit}

theorem completes_deleteIgnoringNotFound (hw : w.Named)
    (h : Completes (FreshServer r policies) w (deleteIgnoringNotFound o) w' x) :
    x = .ok () ∧ Removed [o.metadata.name] w w' := by
  unfold deleteIgnoringNotFound send at h
  rw [completes_request] at h
  obtain ⟨reply, w₁, hreply, hrest⟩ := h
  obtain ⟨hgone, rfl | rfl⟩ := hreply.delete hw <;>
  · obtain ⟨rfl, rfl⟩ := completes_return.mp hrest
    exact ⟨rfl, hgone⟩

theorem completes_deleteAll {items : List FlowRun} (hw : w.Named)
    (h : Completes (FreshServer r policies) w (deleteAll items) w' x) :
    x = .ok () ∧ Removed (items.map (·.metadata.name)) w w' := by
  induction items generalizing w with
  | nil =>
    obtain ⟨rfl, rfl⟩ := completes_return.mp h
    exact ⟨rfl, Removed.nil _⟩
  | cons o rest ih =>
    rw [deleteAll, completes_bind] at h
    obtain ⟨y, w₁, hfirst, hrest⟩ := h
    obtain ⟨rfl, hgone⟩ := completes_deleteIgnoringNotFound hw hfirst
    obtain ⟨rfl, hgone'⟩ := ih (hgone.named hw) hrest
    exact ⟨rfl, hgone.append hgone'⟩

structure Matching (w : World) (triggerName namespace_ : String) (phase : FlowRunPhase)
    (matching : List FlowRun) : Prop where
  nodup : matching.Nodup
  mem_iff : ∀ o, o ∈ matching ↔
    w.Holds o ∧ limited triggerName namespace_ phase o = true ∧ phaseLabelled phase o = true

def overLimit (max : Int) (matching : List FlowRun) : List FlowRun :=
  if wrapInt32 matching.length ≤ max then []
  else (matching.mergeSort completedBefore).take (wrapInt32 (wrapInt32 matching.length - max)).toNat

variable {triggerName ns : String} {phase : FlowRunPhase}

theorem FreshServer.list
    {x : Reply (.listFlowRuns (some ns) [(labelTrigger, triggerName), (labelPhase, phase.text)])}
    (h : FreshServer r policies w
      (.listFlowRuns (some ns) [(labelTrigger, triggerName), (labelPhase, phase.text)]) x w') :
    w' = w ∧ ∃ items, x = .ok items ∧ Matching w triggerName ns phase
      (items.filter fun fr => fr.status.phase == phase && !retained fr) := by
  obtain ⟨hserver, hexact⟩ := h
  cases hserver with
  | @list _ _ items hitems =>
    obtain ⟨hnodup, hall⟩ := hexact
    refine ⟨rfl, items, rfl, hnodup.filter _, fun o => ?_⟩
    have hlabels : matchesLabels [(labelTrigger, triggerName), (labelPhase, phase.text)] o ↔
        o.metadata.labels.lookup labelTrigger = some triggerName ∧
          o.metadata.labels.lookup labelPhase = some phase.text := by
      simp [matchesLabels]
    simp only [List.mem_filter, limited, phaseLabelled, Bool.and_eq_true, beq_iff_eq]
    constructor
    · rintro ⟨ho, hphase, hkept⟩
      obtain ⟨hread, hmatch, hns⟩ := hitems o ho
      obtain ⟨htrigger, hlabel⟩ := hlabels.mp hmatch
      exact ⟨hread, ⟨⟨⟨hns ns rfl, htrigger⟩, hphase⟩, hkept⟩, hlabel⟩
    · rintro ⟨hheld, ⟨⟨⟨hns, htrigger⟩, hphase⟩, hkept⟩, hlabel⟩
      refine ⟨hall o hheld (hlabels.mpr ⟨htrigger, hlabel⟩) ?_, hphase, hkept⟩
      intro n hn
      rw [← Option.some.inj hn]
      exact hns
  | listFails msg hfault => exact absurd rfl hfault

theorem completes_enforceMaxFlowRunsByPhase {max : Int} (hw : w.Named)
    (h : Completes (FreshServer r policies) w (enforceMaxFlowRunsByPhase triggerName ns phase max) w' x) :
    x = .ok () ∧ ∃ matching, Matching w triggerName ns phase matching ∧
      Removed ((overLimit max matching).map (·.metadata.name)) w w' := by
  unfold enforceMaxFlowRunsByPhase send at h
  rw [completes_request] at h
  obtain ⟨reply, w₁, hreply, hrest⟩ := h
  obtain ⟨rfl, items, rfl, hmatching⟩ := hreply.list
  dsimp only at hrest
  unfold overLimit
  split at hrest
  next hfew =>
    obtain ⟨rfl, rfl⟩ := completes_return.mp hrest
    refine ⟨rfl, _, hmatching, ?_⟩
    rw [if_pos hfew]
    exact Removed.nil _
  next hmany =>
    obtain ⟨rfl, hgone⟩ := completes_deleteAll hw hrest
    refine ⟨rfl, _, hmatching, ?_⟩
    rw [if_neg hmany]
    exact hgone

theorem mem_of_mem_overLimit {max : Int} {matching : List FlowRun}
    (h : o ∈ overLimit max matching) : o ∈ matching := by
  unfold overLimit at h
  split at h
  · cases h
  · exact List.mem_mergeSort.mp (List.mem_of_mem_take h)

def Deletes (w : World) (triggerName namespace_ : String) (phase : FlowRunPhase) :
    Option Int → List FlowRun → Prop
  | none, deleted => deleted = []
  | some max, deleted => ∃ matching,
      Matching w triggerName namespace_ phase matching ∧ deleted = overLimit max matching

theorem Deletes.limited {max : Option Int} {deleted : List FlowRun}
    (h : Deletes w triggerName ns phase max deleted) (ho : o ∈ deleted) :
    max ≠ none ∧ w.Holds o ∧ limited triggerName ns phase o = true := by
  cases max with
  | none =>
    have hnil : deleted = [] := h
    rw [hnil] at ho
    cases ho
  | some n =>
    obtain ⟨matching, hmatching, rfl⟩ := h
    obtain ⟨hheld, hlimited, _⟩ := (hmatching.mem_iff o).mp (mem_of_mem_overLimit ho)
    exact ⟨nofun, hheld, hlimited⟩

theorem phase_of_limited (h : limited triggerName ns phase o = true) : o.status.phase = phase := by
  simp only [KubeZap.limited, Bool.and_eq_true, beq_iff_eq] at h
  exact h.1.2

theorem Matching.before {w₁ : World} {gone matching : List FlowRun}
    (h : Matching w₁ triggerName ns phase matching)
    (hgone : Removed (gone.map (·.metadata.name)) w w₁)
    (hother : ∀ o ∈ gone, w.Holds o ∧ o.status.phase ≠ phase) :
    Matching w triggerName ns phase matching where
  nodup := h.nodup
  mem_iff := by
    intro o
    rw [h.mem_iff, hgone.holds_iff]
    constructor
    · rintro ⟨⟨ho, _⟩, hrest⟩
      exact ⟨ho, hrest⟩
    · rintro ⟨ho, hlimited, hlabel⟩
      refine ⟨⟨ho, ?_⟩, hlimited, hlabel⟩
      intro hmem
      obtain ⟨d, hd, hname⟩ := List.mem_map.mp hmem
      obtain ⟨hheld, hphase⟩ := hother d hd
      rw [hheld.eq_of_name ho hname] at hphase
      exact hphase (phase_of_limited hlimited)

theorem Deletes.before {w₁ : World} {max : Option Int} {gone deleted : List FlowRun}
    (h : Deletes w₁ triggerName ns phase max deleted)
    (hgone : Removed (gone.map (·.metadata.name)) w w₁)
    (hother : ∀ o ∈ gone, w.Holds o ∧ o.status.phase ≠ phase) :
    Deletes w triggerName ns phase max deleted := by
  cases max with
  | none => exact h
  | some n =>
    obtain ⟨matching, hmatching, hdeleted⟩ := h
    exact ⟨matching, hmatching.before hgone hother, hdeleted⟩

theorem completes_enforceMax {max : Option Int} (hw : w.Named)
    (h : Completes (FreshServer r policies) w (enforceMax triggerName ns phase max) w' x) :
    x = .ok () ∧ ∃ deleted, Deletes w triggerName ns phase max deleted ∧
      Removed (deleted.map (·.metadata.name)) w w' := by
  cases max with
  | none =>
    obtain ⟨rfl, rfl⟩ := completes_return.mp h
    exact ⟨rfl, [], rfl, Removed.nil _⟩
  | some n =>
    obtain ⟨rfl, matching, hmatching, hgone⟩ := completes_enforceMaxFlowRunsByPhase hw h
    exact ⟨rfl, overLimit n matching, ⟨matching, hmatching, rfl⟩, hgone⟩

/-- The store after both limits: every limit deleted what it found at the start. -/
def Counted (triggerName namespace_ : String) (policy : FlowRunGCPolicy) (w w' : World) : Prop :=
  ∃ deleted : FlowRunPhase → List FlowRun,
    (∀ phase, Deletes w triggerName namespace_ phase (policy.limit phase) (deleted phase)) ∧
    Removed ((deleted .succeeded ++ deleted .failed).map (·.metadata.name)) w w'

variable {policy : FlowRunGCPolicy}

theorem completes_enforceFlowRunGCPolicy (hw : w.Named)
    (h : Completes (FreshServer r policies) w (enforceFlowRunGCPolicy triggerName ns policy) w' x) :
    x = .ok () ∧ Counted triggerName ns policy w w' := by
  rw [enforceFlowRunGCPolicy, completes_bind] at h
  obtain ⟨y, w₁, hfirst, hrest⟩ := h
  obtain ⟨rfl, succeeded, hsucceeded, hgone⟩ := completes_enforceMax hw hfirst
  obtain ⟨rfl, failed, hfailed, hgone'⟩ := completes_enforceMax (hgone.named hw) hrest
  have hother : ∀ o ∈ succeeded, w.Holds o ∧ o.status.phase ≠ .failed := by
    intro o ho
    obtain ⟨_, hheld, hlimited⟩ := hsucceeded.limited ho
    exact ⟨hheld, by rw [phase_of_limited hlimited]; decide⟩
  refine ⟨rfl, fun | .succeeded => succeeded | .failed => failed | _ => [], ?_, ?_⟩
  · intro phase
    cases phase with
    | succeeded => exact hsucceeded
    | failed => exact hfailed.before hgone hother
    | _ => rfl
  · rw [List.map_append]
    exact hgone.append hgone'

theorem holds_counted_iff {deleted : FlowRunPhase → List FlowRun}
    (hdeleted : ∀ phase, Deletes w triggerName ns phase (policy.limit phase) (deleted phase))
    (hgone : Removed ((deleted .succeeded ++ deleted .failed).map (·.metadata.name)) w w')
    (ho : w.Holds o) : w'.Holds o ↔ o ∉ deleted o.status.phase := by
  have hsame : ∀ phase, o ∈ deleted phase → phase = o.status.phase := fun phase hmem =>
    (phase_of_limited ((hdeleted phase).limited hmem).2.2).symm
  have hname : o.metadata.name ∈ (deleted .succeeded ++ deleted .failed).map (·.metadata.name) ↔
      o ∈ deleted o.status.phase := by
    rw [List.mem_map]
    constructor
    · rintro ⟨d, hd, hname⟩
      obtain ⟨phase, hd⟩ : ∃ phase, d ∈ deleted phase :=
        (List.mem_append.mp hd).elim (fun h => ⟨_, h⟩) fun h => ⟨_, h⟩
      obtain ⟨_, hheld, _⟩ := (hdeleted _).limited hd
      rw [hheld.eq_of_name ho hname] at hd
      rw [← hsame _ hd]
      exact hd
    · intro hd
      refine ⟨o, ?_, rfl⟩
      obtain ⟨hlimit, _⟩ := (hdeleted _).limited hd
      cases hphase : o.status.phase with
      | succeeded => rw [hphase] at hd; exact List.mem_append_left _ hd
      | failed => rw [hphase] at hd; exact List.mem_append_right _ hd
      | _ => rw [hphase] at hlimit; exact absurd rfl hlimit
  rw [hgone.holds_iff, hname]
  exact ⟨fun h => h.2, fun h => ⟨ho, h⟩⟩

theorem completes_readGCPolicy {flowRun : FlowRun} {found : Option FlowRunGCPolicy}
    (hlabel : flowRun.metadata.labels.lookup labelTrigger = some triggerName)
    (hname : triggerName ≠ "")
    (h : Completes (FreshServer r policies) w (readGCPolicy flowRun) w' found) :
    w' = w ∧ found = policies ⟨flowRun.metadata.name.namespace_, triggerName⟩ := by
  unfold readGCPolicy send at h
  rw [hlabel] at h
  dsimp only at h
  rw [if_neg hname, completes_request] at h
  obtain ⟨reply, w₁, ⟨hserver, hreply⟩, hrest⟩ := h
  cases hserver with
  | trigger =>
    have hx : reply = .ok (policies ⟨flowRun.metadata.name.namespace_, triggerName⟩) := hreply
    rw [hx] at hrest
    exact completes_return.mp hrest

def Expired (r : FlowRunReconciler) (flowRun : FlowRun) (policy : Option FlowRunGCPolicy)
    (now : Time) : Prop :=
  gcTTL r flowRun policy ≠ 0 ∧
    ∃ completed, flowRun.status.completionTime = some completed ∧
      ¬ now < completed + gcTTL r flowRun policy

theorem completes_expire {flowRun : FlowRun} {policy : Option FlowRunGCPolicy}
    {x : Except ApiError Duration} (hw : w.Named)
    (h : Completes (FreshServer r policies) w (expire r flowRun policy) w' x) :
    w'.store = w.store ∨
      (∃ now, w.clock ≤ now ∧ Expired r flowRun policy now) ∧
        Removed [flowRun.metadata.name] w w' := by
  unfold expire send at h
  dsimp only at h
  split at h
  next =>
    obtain ⟨rfl, _⟩ := completes_return.mp h
    exact .inl rfl
  next httl =>
    split at h
    next =>
      obtain ⟨rfl, _⟩ := completes_return.mp h
      exact .inl rfl
    next completed hcompleted =>
      rw [completes_request] at h
      obtain ⟨now, w₁, ⟨hserver, _⟩, hrest⟩ := h
      cases hserver with
      | now hclock =>
        split at hrest
        next =>
          obtain ⟨rfl, _⟩ := completes_return.mp hrest
          exact .inl rfl
        next hover =>
          rw [completes_bind] at hrest
          obtain ⟨y, w₂, hdelete, hlast⟩ := hrest
          obtain ⟨rfl, hgone⟩ := @completes_deleteIgnoringNotFound r policies
            { w with clock := now } w₂ flowRun y hw hdelete
          obtain ⟨rfl, _⟩ := completes_return.mp hlast
          exact .inr ⟨⟨now, hclock, httl, completed, hcompleted, hover⟩, hgone⟩

theorem completes_reconcileGC {flowRun : FlowRun} {x : Except ApiError Duration} (hw : w.Named)
    (hretained : retained flowRun = false)
    (hlabel : flowRun.metadata.labels.lookup labelTrigger = some triggerName)
    (hname : triggerName ≠ "")
    (hpolicy : policies ⟨flowRun.metadata.name.namespace_, triggerName⟩ = some policy)
    (h : Completes (FreshServer r policies) w (reconcileGC r flowRun) w' x) :
    ∃ counted, Counted triggerName flowRun.metadata.name.namespace_ policy w counted ∧
      (w'.store = counted.store ∨
        (∃ now, counted.clock ≤ now ∧ Expired r flowRun (some policy) now) ∧
          Removed [flowRun.metadata.name] counted w') := by
  unfold reconcileGC at h
  rw [if_neg (by simp [hretained]), completes_bind] at h
  obtain ⟨found, w₁, hread, h⟩ := h
  obtain ⟨rfl, rfl⟩ := completes_readGCPolicy hlabel hname hread
  rw [hpolicy, completes_bind] at h
  obtain ⟨y, counted, henforce, h⟩ := h
  unfold enforceTriggerPolicy at henforce
  rw [hlabel, Option.getD_some] at henforce
  obtain ⟨rfl, hcounted⟩ := completes_enforceFlowRunGCPolicy hw henforce
  dsimp only at h
  rw [completes_bind] at h
  obtain ⟨again, w₂, hread', hexpire⟩ := h
  obtain ⟨rfl, rfl⟩ := completes_readGCPolicy hlabel hname hread'
  rw [hpolicy] at hexpire
  have hnamed : w₂.Named := by
    obtain ⟨_, _, hgone⟩ := hcounted
    exact hgone.named hw
  exact ⟨w₂, hcounted, completes_expire hnamed hexpire⟩

end Runs

/-! ## What a limit leaves -/

theorem completedBefore_trans (a b c : FlowRun) (hab : completedBefore a b = true)
    (hbc : completedBefore b c = true) : completedBefore a c = true := by
  unfold completedBefore at *
  cases ha : a.status.completionTime with
  | none => rfl
  | some ta =>
    cases hb : b.status.completionTime with
    | none => simp [ha, hb] at hab
    | some tb =>
      cases hc : c.status.completionTime with
      | none => simp [hb, hc] at hbc
      | some tc =>
        simp only [ha, hb, hc, decide_eq_true_eq] at hab hbc ⊢
        exact le_trans hab hbc

theorem completedBefore_total (a b : FlowRun) :
    (completedBefore a b || completedBefore b a) = true := by
  unfold completedBefore
  cases a.status.completionTime with
  | none => rfl
  | some ta =>
    cases b.status.completionTime with
    | none => rfl
    | some tb =>
      simp only [Bool.or_eq_true, decide_eq_true_eq]
      exact le_total ta tb

/-- A limit keeps that many of the FlowRuns it is about, those completed last; a
limit of zero removes none. -/
def LimitKept (limit : Int) (before after : List FlowRun) : Prop :=
  if limit = 0 then after = before
  else Newest completedBefore limit.toNat before after

theorem overLimit_of_length_le {limit : Int} (hmax : limit ≤ 2147483647)
    {matching : List FlowRun} (h : matching.length ≤ limit) : overLimit limit matching = [] := by
  unfold overLimit
  rw [wrapInt32_of_le (by omega), if_pos h]

theorem overLimit_of_lt_length {limit : Int} (hlimit : 0 ≤ limit) {matching : List FlowRun}
    (hcount : matching.length ≤ 2147483647) :
    overLimit limit matching =
      (matching.mergeSort completedBefore).take (matching.length - limit.toNat) := by
  obtain ⟨n, rfl⟩ := Int.eq_ofNat_of_zero_le hlimit
  unfold overLimit
  rw [wrapInt32_of_le hcount, Int.toNat_natCast]
  split
  next h =>
    have hzero : matching.length - n = 0 := by omega
    rw [hzero, List.take_zero]
  next h =>
    have hsub : (matching.length : Int) - n = ((matching.length - n : Nat) : Int) := by omega
    rw [hsub, wrapInt32_of_le (by omega), Int.toNat_natCast]

/-- The situations in which the enforcement of a limit does what the limit says. -/
structure Enforceable (flowRun : FlowRun) (phase : FlowRunPhase) (limit : Int)
    (before : List FlowRun) : Prop where
  /-- A limit of zero meets no FlowRun that it finds by the label. -/
  zero : limit = 0 → retained flowRun = true ∨ ∀ o ∈ before, phaseLabelled phase o = false
  /-- Where there are too many, every one of them carries the label, their number is
  one of 32 bits, and the reconciled FlowRun is not exempt. -/
  exceeded : 0 < limit → limit < before.length →
    retained flowRun = false ∧ before.length ≤ 2147483647 ∧
      ∀ o ∈ before, phaseLabelled phase o = true

section Limit

variable {flowRun : FlowRun} {phase : FlowRunPhase} {limit : Int} {before matching : List FlowRun}

theorem LimitKept.refl (h : limit ≠ 0 → before.length ≤ limit) : LimitKept limit before before := by
  unfold LimitKept
  split
  · rfl
  · rename_i hlimit
    exact Newest.whole (by have := h hlimit; omega)

theorem LimitKept.overLimit (hrange : 0 ≤ limit ∧ limit ≤ 2147483647) (hbefore : before.Nodup)
    (hnodup : matching.Nodup) (hmem : ∀ o, o ∈ matching ↔ o ∈ before ∧ phaseLabelled phase o = true)
    (hretained : retained flowRun = false) (hok : Enforceable flowRun phase limit before) :
    LimitKept limit before (before.filter (· ∉ KubeZap.overLimit limit matching)) := by
  have hfew : KubeZap.overLimit limit matching = [] →
      before.filter (· ∉ KubeZap.overLimit limit matching) = before := by
    intro h
    simp [h]
  have hlen : matching.length ≤ before.length :=
    (List.subperm_of_subset hnodup fun o ho => ((hmem o).mp ho).1).length_le
  by_cases hzero : limit = 0
  · have hnone : matching = [] := by
      refine List.eq_nil_iff_forall_not_mem.mpr fun o ho => ?_
      obtain ⟨hin, hlabel⟩ := (hmem o).mp ho
      rcases hok.zero hzero with hexempt | hunlabelled
      · rw [hretained] at hexempt
        cases hexempt
      · rw [hunlabelled o hin] at hlabel
        cases hlabel
    rw [hfew (overLimit_of_length_le hrange.2 (by simp [hnone, hzero]))]
    exact LimitKept.refl fun h => absurd hzero h
  · by_cases hwithin : (before.length : Int) ≤ limit
    · rw [hfew (overLimit_of_length_le hrange.2 (by omega))]
      exact LimitKept.refl fun _ => hwithin
    · obtain ⟨_, hcount, hlabelled⟩ := hok.exceeded (by omega) (by omega)
      have hperm : matching.Perm before := by
        refine (List.perm_ext_iff_of_nodup hnodup hbefore).mpr fun o => ?_
        rw [hmem o]
        exact ⟨fun h => h.1, fun h => ⟨h, hlabelled o h⟩⟩
      unfold LimitKept
      rw [if_neg hzero, overLimit_of_lt_length hrange.1 (by omega)]
      exact Newest.of_mergeSort completedBefore_trans completedBefore_total hperm hbefore _

end Limit

/-- After `reconcileGC` of a FlowRun, of the FlowRuns each limit of its Trigger is
about those completed last are left, as many as the limit says; no other FlowRun
went by a limit. What may have gone besides is the FlowRun itself, when its TTL is
over. -/
theorem count_limits_kept {r : FlowRunReconciler}
    {policies : NamespacedName → Option FlowRunGCPolicy} {w w' : World} {objects : List FlowRun}
    {flowRun : FlowRun} {triggerName : String} {policy : FlowRunGCPolicy}
    {x : Except ApiError Duration} (hw : w.Named) (hobjects : Enumerates w objects)
    (hlabel : flowRun.metadata.labels.lookup labelTrigger = some triggerName)
    (hname : triggerName ≠ "")
    (hpolicy : policies ⟨flowRun.metadata.name.namespace_, triggerName⟩ = some policy)
    (hrange : ∀ phase limit, policy.limit phase = some limit → 0 ≤ limit ∧ limit ≤ 2147483647)
    (hok : ∀ phase limit, policy.limit phase = some limit →
      Enforceable flowRun phase limit
        (objects.filter (limited triggerName flowRun.metadata.name.namespace_ phase)))
    (h : Completes (FreshServer r policies) w (reconcileGC r flowRun) w' x) :
    ∃ counted : World,
      (∀ phase limit, policy.limit phase = some limit →
        LimitKept limit
          (objects.filter (limited triggerName flowRun.metadata.name.namespace_ phase))
          ((objects.filter (limited triggerName flowRun.metadata.name.namespace_ phase)).filter
            counted.Holds)) ∧
      (∀ o, counted.Holds o → o ∈ objects) ∧
      (∀ o ∈ objects, (∀ phase, policy.limit phase ≠ none →
          limited triggerName flowRun.metadata.name.namespace_ phase o = false) →
        counted.Holds o) ∧
      (w'.store = counted.store ∨
        (∃ now, counted.clock ≤ now ∧ Expired r flowRun (some policy) now) ∧
          Removed [flowRun.metadata.name] counted w') := by
  by_cases hretained : retained flowRun = true
  · -- an exempt FlowRun enforces nothing
    have hsame : w' = w := by
      unfold reconcileGC at h
      rw [if_pos hretained] at h
      exact (completes_return.mp h).1
    subst hsame
    refine ⟨w', ?_, fun o => (hobjects.mem_iff o).mpr, fun o ho _ => (hobjects.mem_iff o).mp ho,
      .inl rfl⟩
    intro phase limit hlimit
    have hall : (objects.filter
          (limited triggerName flowRun.metadata.name.namespace_ phase)).filter w'.Holds =
        objects.filter (limited triggerName flowRun.metadata.name.namespace_ phase) := by
      refine List.filter_eq_self.mpr fun o ho => ?_
      exact decide_eq_true ((hobjects.mem_iff o).mp (List.mem_of_mem_filter ho))
    rw [hall]
    refine LimitKept.refl fun hne => ?_
    by_contra hover
    have hnonneg := (hrange phase limit hlimit).1
    obtain ⟨hexempt, _⟩ := (hok phase limit hlimit).exceeded (by omega) (by omega)
    rw [hretained] at hexempt
    cases hexempt
  · have hretained : retained flowRun = false := by simpa using hretained
    obtain ⟨counted, ⟨deleted, hdeleted, hgone⟩, hexpiry⟩ :=
      completes_reconcileGC hw hretained hlabel hname hpolicy h
    refine ⟨counted, ?_, ?_, ?_, hexpiry⟩
    · intro phase limit hlimit
      have hphase := hdeleted phase
      rw [hlimit] at hphase
      obtain ⟨matching, hmatching, hover⟩ := hphase
      have hleft : (objects.filter (limited triggerName flowRun.metadata.name.namespace_ phase)).filter
            counted.Holds =
          (objects.filter (limited triggerName flowRun.metadata.name.namespace_ phase)).filter
            (· ∉ overLimit limit matching) := by
        refine List.filter_congr fun o ho => ?_
        obtain ⟨hin, hlimited⟩ := List.mem_filter.mp ho
        have hheld := (hobjects.mem_iff o).mp hin
        rw [decide_eq_decide, holds_counted_iff hdeleted hgone hheld, phase_of_limited hlimited,
          hover]
      rw [hleft]
      refine LimitKept.overLimit (hrange phase limit hlimit) (hobjects.nodup.filter _)
        hmatching.nodup ?_ hretained (hok phase limit hlimit)
      intro o
      rw [hmatching.mem_iff, List.mem_filter, hobjects.mem_iff, and_assoc]
    · intro o ho
      exact (hobjects.mem_iff o).mpr ((hgone.holds_iff o).mp ho).1
    · intro o ho hnone
      have hheld := (hobjects.mem_iff o).mp ho
      refine (holds_counted_iff hdeleted hgone hheld).mpr fun hmem => ?_
      obtain ⟨hlimit, _, hlimited⟩ := (hdeleted o.status.phase).limited hmem
      rw [hnone _ hlimit] at hlimited
      cases hlimited

section Orders

def orderRun (name : String) (completed : Time) : FlowRun where
  metadata :=
    { name := ⟨"default", name⟩
      labels := [(labelTrigger, "orders"), (labelPhase, "Succeeded")] }
  spec := { flowRef := "ship" }
  status := { phase := .succeeded, completionTime := some completed }

def orderWorld (runs : List FlowRun) : World where
  store := { current := Keyed.find (·.metadata.name) runs, versions := runs, next := 1 }
  clock := 0

def lasting : FlowRunReconciler := { lib := default, ttlSucceeded := 0, ttlFailed := 0 }

def succeededLimit (limit : Int) (key : NamespacedName) : Option FlowRunGCPolicy :=
  if key = ⟨"default", "orders"⟩ then some { maxSucceeded := some limit } else none

structure Orders (runs : List FlowRun) : Prop where
  names : (runs.map (·.metadata.name)).Nodup
  order : ∀ o ∈ runs, ∃ name completed, o = orderRun name completed
  sorted : runs.Pairwise fun a b => completedBefore a b

variable {runs : List FlowRun} {limit : Int}

theorem Orders.enumerates (h : Orders runs) : Enumerates (orderWorld runs) runs where
  nodup := h.names.of_map
  mem_iff _ := ⟨Keyed.find_of_mem h.names, Keyed.mem_of_find⟩

theorem orderWorld_named : (orderWorld runs).Named := by
  intro key o h
  have hfind : runs.find? (fun o => o.metadata.name == key) = some o := h
  simpa using List.find?_some hfind

theorem Orders.listed (h : Orders runs) :
    FreshServer lasting (succeededLimit limit) (orderWorld runs)
    (.listFlowRuns (some "default") [(labelTrigger, "orders"), (labelPhase, "Succeeded")])
    (.ok runs) (orderWorld runs) := by
  refine ⟨.list fun o ho => ?_, h.names.of_map, fun o ho _ _ => (h.enumerates.mem_iff o).mpr ho⟩
  have hheld := (h.enumerates.mem_iff o).mp ho
  obtain ⟨name, completed, rfl⟩ := h.order o ho
  refine ⟨hheld, ?_, fun n hn => Option.some.inj hn⟩
  intro e he
  simp only [List.mem_cons, List.not_mem_nil, or_false] at he
  rcases he with rfl | rfl <;> rfl

theorem Orders.filter (h : Orders runs) :
    runs.filter (fun fr => fr.status.phase == .succeeded && !retained fr) = runs := by
  refine List.filter_eq_self.mpr fun o ho => ?_
  obtain ⟨name, completed, rfl⟩ := h.order o ho
  rfl

theorem Orders.limited (h : Orders runs) :
    runs.filter (limited "orders" "default" .succeeded) = runs := by
  refine List.filter_eq_self.mpr fun o ho => ?_
  obtain ⟨name, completed, rfl⟩ := h.order o ho
  rfl

def orderGone (runs : List FlowRun) (oldest : FlowRun) : World :=
  { orderWorld runs with
    store := ((orderWorld runs).store.commit flowRunKind oldest (oldest.requestDeletion 0)).1 }

/-- Where there is one FlowRun too many, the one completed first is deleted. -/
theorem Orders.reconcileGC (h : Orders runs) (name : String) (completed : Time)
    (hover : ¬ wrapInt32 runs.length ≤ limit)
    (htake : runs.take (wrapInt32 (wrapInt32 runs.length - limit)).toNat =
      [orderRun name completed])
    (hheld : (orderWorld runs).Holds (orderRun name completed))
    (hgone : (orderGone runs (orderRun name completed)).store.current ⟨"default", name⟩ = none) :
    Completes (FreshServer lasting (succeededLimit limit)) (orderWorld runs)
      (reconcileGC lasting (orderRun name completed))
      (orderGone runs (orderRun name completed)) (.ok 0) := by
  have hread : ∀ w : World, Completes (FreshServer lasting (succeededLimit limit)) w
      (readGCPolicy (orderRun name completed)) w (some { maxSucceeded := some limit }) :=
    fun w => ⟨_, .step ⟨.trigger (.ok (some { maxSucceeded := some limit })), rfl⟩ (.done _ _)⟩
  have henforce : Completes (FreshServer lasting (succeededLimit limit)) (orderWorld runs)
      (enforceMaxFlowRunsByPhase "orders" "default" .succeeded limit)
      (orderGone runs (orderRun name completed)) (.ok ()) := by
    unfold enforceMaxFlowRunsByPhase send
    rw [completes_request]
    refine ⟨_, _, h.listed, ?_⟩
    dsimp only
    rw [h.filter, if_neg hover, List.mergeSort_of_pairwise h.sorted, htake]
    exact ⟨_, .step ⟨.delete hheld, hgone⟩ (.done _ _)⟩
  unfold KubeZap.reconcileGC
  rw [if_neg (by exact Bool.false_ne_true), completes_bind]
  refine ⟨_, _, hread _, completes_bind.mpr
    ⟨.ok (), orderGone runs (orderRun name completed), ?_, ?_⟩⟩
  · change Completes _ _ (enforceFlowRunGCPolicy "orders" "default" _) _ _
    rw [enforceFlowRunGCPolicy, completes_bind]
    exact ⟨.ok (), _, henforce, completes_return.mpr ⟨rfl, rfl⟩⟩
  · exact completes_bind.mpr ⟨_, _, hread _, completes_return.mpr ⟨rfl, rfl⟩⟩

theorem order_limit {n : Int} {phase : FlowRunPhase}
    (h : FlowRunGCPolicy.limit { maxSucceeded := some limit } phase = some n) :
    phase = .succeeded ∧ n = limit := by
  cases phase with
  | succeeded => exact ⟨rfl, (Option.some.inj h).symm⟩
  | _ => cases h

def threeOrders : List FlowRun :=
  [orderRun "order-1" 1, orderRun "order-2" 2, orderRun "order-3" 3]

theorem threeOrders_orders : Orders threeOrders where
  names := by decide
  order := by simp [threeOrders]
  sorted := by decide

/-- The Trigger keeps two succeeded FlowRuns and has three: the one completed first is deleted. -/
theorem count_limits_kept_orders :
    ∃ counted : World, LimitKept 2 threeOrders (threeOrders.filter counted.Holds) ∧
      threeOrders.filter counted.Holds = [orderRun "order-2" 2, orderRun "order-3" 3] := by
  have hlimited := threeOrders_orders.limited
  obtain ⟨counted, hlimit, _, _, hrest⟩ := @count_limits_kept _ _ _ _ _ _ "orders"
    { maxSucceeded := some 2 } _ orderWorld_named threeOrders_orders.enumerates rfl (by decide) rfl
    (by
      intro phase limit h
      obtain ⟨_, rfl⟩ := order_limit h
      decide)
    (by
      intro phase limit h
      obtain ⟨rfl, rfl⟩ := order_limit h
      change Enforceable _ _ _ (threeOrders.filter (KubeZap.limited "orders" "default" .succeeded))
      rw [hlimited]
      exact ⟨nofun, fun _ _ => by decide⟩)
    (threeOrders_orders.reconcileGC "order-1" 1 (by decide) rfl rfl rfl)
  have hkept := hlimit .succeeded 2 rfl
  change LimitKept 2 (threeOrders.filter (KubeZap.limited "orders" "default" .succeeded))
    ((threeOrders.filter (KubeZap.limited "orders" "default" .succeeded)).filter counted.Holds)
    at hkept
  rw [hlimited] at hkept
  have hstore := hrest.resolve_right (by
    rintro ⟨⟨_, _, httl, _⟩, _⟩
    exact httl (by decide))
  have hholds : ∀ o, counted.Holds o ↔ (orderGone threeOrders (orderRun "order-1" 1)).Holds o := by
    intro o
    rw [World.Holds, World.Holds, hstore]
  have hleft : threeOrders.filter (orderGone threeOrders (orderRun "order-1" 1)).Holds =
      [orderRun "order-2" 2, orderRun "order-3" 3] := by decide
  exact ⟨counted, hkept,
    (List.filter_congr fun o _ => decide_eq_decide.mpr (hholds o)).trans hleft⟩

/-- A limit of zero, documented as none, deletes the only succeeded FlowRun. -/
theorem zero_limit_deletes :
    ∃ (r : FlowRunReconciler) (policies : NamespacedName → Option FlowRunGCPolicy) (w w' : World)
      (flowRun : FlowRun) (policy : FlowRunGCPolicy),
      w.Named ∧ Enumerates w [flowRun] ∧ flowRun.status.phase = .succeeded ∧
      flowRun.metadata.labels.lookup labelTrigger = some "orders" ∧
      phaseLabelled .succeeded flowRun = true ∧ retained flowRun = false ∧
      policies ⟨flowRun.metadata.name.namespace_, "orders"⟩ = some policy ∧
      policy.limit .succeeded = some 0 ∧ gcTTL r flowRun (some policy) = 0 ∧
      Completes (FreshServer r policies) w (reconcileGC r flowRun) w' (.ok 0) ∧
      w'.store.current flowRun.metadata.name = none := by
  have horders : Orders [orderRun "order-1" 1] := ⟨by decide, by simp, by decide⟩
  exact ⟨lasting, succeededLimit 0, orderWorld [orderRun "order-1" 1], _, orderRun "order-1" 1,
    { maxSucceeded := some 0 }, orderWorld_named, horders.enumerates, rfl, rfl, by decide,
    by decide, by decide, rfl, by decide, horders.reconcileGC "order-1" 1 (by decide) rfl rfl rfl,
    rfl⟩

end Orders

end KubeZap
