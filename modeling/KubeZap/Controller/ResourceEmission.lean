import KubeZap.Controller.ResourceWatcher

/-! # What a resource Trigger reports

One resource Trigger over the whole life of the objects it watches: the objects change,
reconciles replace the Trigger's watcher, the informer of the present watcher lists,
follows and resyncs, and its handler takes the notifications one by one.
-/

namespace KubeZap

open Foundation

/-! ## The system -/

def unstructuredMeta : Meta Unstructured NamespacedName String String :=
  ⟨Unstructured.name, Unstructured.uid, Unstructured.resourceVersion⟩

/-- The informer of a watcher: how much of the log it has seen, if it has listed the
objects yet, and the notifications its handler has still to take. -/
structure Watch where
  cursor : Option Nat
  pending : List (Notification Unstructured)

/-- The changes of the watched objects, the watchers of the controller, the informer of
the Trigger's watcher, and the FlowRuns it has created with the UIDs of their objects. -/
structure ResourceWorld where
  log : List (Change Unstructured)
  rw : ResourceWatcher
  watch : Option Watch
  created : List (String × FlowRun)

def ResourceWorld.start : ResourceWorld where
  log := []
  rw := ⟨true, true, fun _ => none, fun _ => none⟩
  watch := none
  created := []

inductive WatchMove
  | change (c : Change Unstructured)
  | register
  | deregister
  | list
  | deliver
  | resync
  | handle (inputs : EventInputs) (accepted : Bool)
  -- Sweeps, and the events and reconciles of other Triggers.
  | others (tracker : Tracker)

def ResourceWorld.cache (s : ResourceWorld) (w : Watch) : List Unstructured :=
  match w.cursor with
  | none => []
  | some c => objectsAt unstructuredMeta (s.log.take c)

section System

variable (lib : GoLib) (asSelector : AsSelector) (trigger : Trigger) (resource : ResourceTrigger)

/-- The handler takes one notification; `accepted` says whether a `Create` succeeds. -/
def ResourceWorld.handled (s : ResourceWorld) (n : Notification Unstructured)
    (inputs : EventInputs) (accepted : Bool) : ResourceWorld :=
  match eventHandler lib resource n with
  | none => s
  | some (u, eventType) =>
    let done := handleEvent lib asSelector trigger resource u eventType inputs
      s.rw.cooldownTracker
    { s with
      rw := { s.rw with cooldownTracker := done.2 }
      created := s.created ++
        if accepted then done.1.toList.map fun flowRun => (u.uid, flowRun) else [] }

/-- A reconcile of the Trigger gives it a new informer, if it gets a watcher at all. -/
def ResourceWorld.exec (s : ResourceWorld) : WatchMove → Option ResourceWorld
  | .change c => some { s with log := s.log ++ [c] }
  | .register =>
    let rw := s.rw.register trigger
    some { s with
      rw := rw
      watch := (rw.watchers trigger.key.slashed).map fun _ => ⟨none, []⟩ }
  | .deregister =>
    some { s with rw := s.rw.deregister trigger.key.slashed, watch := none }
  | .list => do
      let w ← s.watch
      let objects := objectsAt unstructuredMeta s.log
      return { s with
        watch := some
          ⟨some s.log.length, w.pending ++ relist unstructuredMeta (s.cache w) objects⟩ }
  | .deliver => do
      let w ← s.watch
      let cursor ← w.cursor
      let c ← s.log[cursor]?
      return { s with
        watch := some
          ⟨some (cursor + 1), w.pending ++ [c.notification unstructuredMeta (s.cache w)]⟩ }
  | .resync => do
      let w ← s.watch
      return { s with watch := some ⟨w.cursor, w.pending ++ resync (s.cache w)⟩ }
  | .handle inputs accepted => do
      let w ← s.watch
      let n ← w.pending.head?
      return { s.handled lib asSelector trigger resource n inputs accepted with
        watch := some ⟨w.cursor, w.pending.tail⟩ }
  | .others tracker => some { s with rw := { s.rw with cooldownTracker := tracker } }

/-- The objects change as the API server lets them; the rest is what the code does. -/
def ResourceWorld.Step (s : ResourceWorld) (move : WatchMove) (s' : ResourceWorld) : Prop :=
  s.exec lib asSelector trigger resource move = some s' ∧
    ∀ c, move = .change c → Legal unstructuredMeta s.log c

end System

/-! ## Deliveries in order -/

def reports (lib : GoLib) (asSelector : AsSelector) (resource : ResourceTrigger)
    (n : Notification Unstructured) : Bool :=
  match eventHandler lib resource n with
  | none => false
  | some (u, _) => selectorMatches asSelector resource.labelSelector u

def FlowRun.eventType (flowRun : FlowRun) : String :=
  (flowRun.spec.triggerData.map (·.eventType)).getD ""

/-- The first list of a new informer shows no object that was reported as added before;
later lists and resyncs report no update of an object whose version is the same, or of
an object in another's place. -/
def ResourceWorld.InOrder (lib : GoLib) (asSelector : AsSelector) (resource : ResourceTrigger)
    (s : ResourceWorld) : WatchMove → Prop
  | .list => ∀ w, s.watch = some w →
      (w.cursor = none → ∀ o ∈ objectsAt unstructuredMeta s.log,
        reports lib asSelector resource (.add o) = true →
        ∀ c ∈ s.created, c.2.eventType = WatchEventType.added.text → c.1 ≠ o.uid) ∧
      ∀ old ∈ s.cache w, ∀ new ∈ objectsAt unstructuredMeta s.log, old.name = new.name →
        reports lib asSelector resource (.update old new) = true →
        old.uid = new.uid ∧ old.resourceVersion ≠ new.resourceVersion
  | .resync => ∀ w, s.watch = some w → ∀ o ∈ s.cache w,
      reports lib asSelector resource (.update o o) = false
  | _ => True

/-! ## The account of one object -/

section Account

variable {lib : GoLib} {asSelector : AsSelector} {trigger : Trigger} {resource : ResourceTrigger}
variable {s s' : ResourceWorld}

def createdCount (eventType : WatchEventType) (uid : String) (created : List (String × FlowRun)) :
    Nat :=
  created.countP fun c => c.1 = uid ∧ c.2.eventType = eventType.text

/-- The changes that the present informer knows of; a new one will know of all. -/
def ResourceWorld.seen (s : ResourceWorld) : List (Change Unstructured) :=
  match s.watch.bind Watch.cursor with
  | none => s.log
  | some c => s.log.take c

def ResourceWorld.pending (s : ResourceWorld) : List (Notification Unstructured) :=
  (s.watch.map Watch.pending).getD []

/-- What was reported of every object, and what is still to be taken, is accounted for by
the changes that the informer knows of. -/
structure ResourceWorld.Inv (lib : GoLib) (asSelector : AsSelector) (resource : ResourceTrigger)
    (s : ResourceWorld) : Prop where
  history : History unstructuredMeta s.log
  position : ∀ c, s.watch.bind Watch.cursor = some c → c ≤ s.log.length
  fresh : s.watch.bind Watch.cursor = none → s.pending = []
  adds : ∀ uid, createdCount .added uid s.created +
      s.pending.countP (fun n => n.adds unstructuredMeta uid && reports lib asSelector resource n) ≤
    births unstructuredMeta uid s.seen
  updates : ∀ uid, createdCount .modified uid s.created +
      s.pending.countP
        (fun n => n.updates unstructuredMeta uid && reports lib asSelector resource n) ≤
    changes unstructuredMeta uid s.seen

theorem ResourceWorld.seen_append (s : ResourceWorld) : ∃ rest, s.log = s.seen ++ rest := by
  unfold ResourceWorld.seen
  split
  · exact ⟨[], (List.append_nil _).symm⟩
  · exact ⟨_, (List.take_append_drop _ _).symm⟩

theorem handled_created (n : Notification Unstructured) (inputs : EventInputs) (accepted : Bool) :
    (s.handled lib asSelector trigger resource n inputs accepted).created = s.created ∨
      ∃ u eventType, eventHandler lib resource n = some (u, eventType) ∧
        reports lib asSelector resource n = true ∧
        (s.handled lib asSelector trigger resource n inputs accepted).created =
          s.created ++ [(u.uid, resourceFlowRun lib trigger resource u eventType inputs)] := by
  unfold ResourceWorld.handled
  cases hn : eventHandler lib resource n with
  | none => exact .inl rfl
  | some event =>
    obtain ⟨u, eventType⟩ := event
    cases hdone : (handleEvent lib asSelector trigger resource u eventType inputs
        s.rw.cooldownTracker).1 with
    | none => simp [hdone]
    | some flowRun =>
      obtain ⟨hmatch, rfl, -⟩ := handleEvent_flowRun hdone
      cases accepted with
      | false => simp
      | true => exact .inr ⟨u, eventType, rfl, by simp [reports, hn, hmatch], by simp [hdone]⟩

theorem handled_count {eventType : WatchEventType} {uid : String} {n : Notification Unstructured}
    {kind : Notification Unstructured → Bool}
    (hkind : ∀ u, eventHandler lib resource n = some (u, eventType) → u.uid = uid → kind n = true)
    (inputs : EventInputs) (accepted : Bool) :
    createdCount eventType uid
        (s.handled lib asSelector trigger resource n inputs accepted).created ≤
      createdCount eventType uid s.created +
        [n].countP (fun n => kind n && reports lib asSelector resource n) := by
  rcases @handled_created lib asSelector trigger resource s n inputs accepted with
    hsame | ⟨u, eventType', hn, hreports, hcreated⟩
  · rw [hsame]
    exact Nat.le_add_right _ _
  · rw [hcreated, createdCount, List.countP_append, createdCount]
    refine Nat.add_le_add_left ?_ _
    rw [List.countP_singleton, List.countP_singleton, hreports, Bool.and_true]
    by_cases hmine : u.uid = uid ∧ eventType' = eventType
    · rw [hkind u (hmine.2 ▸ hn) hmine.1, if_pos rfl]
      split <;> decide
    · have hother : ¬ (u.uid = uid ∧ eventType'.text = eventType.text) := by
        rintro ⟨huid, htext⟩
        refine hmine ⟨huid, ?_⟩
        cases eventType' <;> cases eventType <;> first | rfl | exact absurd htext (by decide)
      have htype : (resourceFlowRun lib trigger resource u eventType' inputs).eventType =
          eventType'.text := rfl
      rw [htype, if_neg (by simpa using hother)]
      exact Nat.zero_le _

theorem eventHandler_added {n : Notification Unstructured} {u : Unstructured}
    (h : eventHandler lib resource n = some (u, .added)) (uid : String) (huid : u.uid = uid) :
    n.adds unstructuredMeta uid = true := by
  cases n with
  | add obj =>
    simp only [eventHandler] at h
    split at h <;> simp_all [Notification.adds, unstructuredMeta]
  | update | delete =>
    simp only [eventHandler] at h
    split_ifs at h
    simp at h

theorem eventHandler_modified {n : Notification Unstructured} {u : Unstructured}
    (h : eventHandler lib resource n = some (u, .modified)) (uid : String) (huid : u.uid = uid) :
    n.updates unstructuredMeta uid = true := by
  cases n with
  | add | delete =>
    simp only [eventHandler] at h
    split_ifs at h
    simp at h
  | update oldObj newObj =>
    simp only [eventHandler] at h
    split_ifs at h
    simp_all [Notification.updates, unstructuredMeta]

theorem ResourceWorld.Inv.extend (h : s.Inv lib asSelector resource)
    (more : List (Change Unstructured)) (hhistory : History unstructuredMeta s'.log)
    (hposition : ∀ c, s'.watch.bind Watch.cursor = some c → c ≤ s'.log.length)
    (hfresh : s'.watch.bind Watch.cursor = none → s'.pending = [])
    (hseen : s'.seen = s.seen ++ more) (hadds : ∀ uid, createdCount .added uid s'.created +
        s'.pending.countP
          (fun n => n.adds unstructuredMeta uid && reports lib asSelector resource n) ≤
      createdCount .added uid s.created +
        s.pending.countP
          (fun n => n.adds unstructuredMeta uid && reports lib asSelector resource n) +
        births unstructuredMeta uid more)
    (hupdates : ∀ uid, createdCount .modified uid s'.created +
        s'.pending.countP
          (fun n => n.updates unstructuredMeta uid && reports lib asSelector resource n) ≤
      createdCount .modified uid s.created +
        s.pending.countP
          (fun n => n.updates unstructuredMeta uid && reports lib asSelector resource n) +
        changes unstructuredMeta uid more) : s'.Inv lib asSelector resource := by
  refine ⟨hhistory, hposition, hfresh, ?_, ?_⟩
  · intro uid
    have hold := h.adds uid
    have hnew := hadds uid
    rw [hseen, births_append]
    omega
  · intro uid
    have hold := h.updates uid
    have hnew := hupdates uid
    rw [hseen, changes_append]
    omega

theorem ResourceWorld.Inv.start : ResourceWorld.start.Inv lib asSelector resource where
  history := .nil _
  position := by simp [ResourceWorld.start]
  fresh := by simp [ResourceWorld.start, ResourceWorld.pending]
  adds := by simp [ResourceWorld.start, ResourceWorld.pending, createdCount]
  updates := by simp [ResourceWorld.start, ResourceWorld.pending, createdCount]

theorem ResourceWorld.Inv.change (h : s.Inv lib asSelector resource) {c : Change Unstructured}
    (hlegal : Legal unstructuredMeta s.log c) :
    ResourceWorld.Inv lib asSelector resource { s with log := s.log ++ [c] } := by
  have hpos : ∀ p, s.watch.bind Watch.cursor = some p → p ≤ (s.log ++ [c]).length := by
    intro p hp
    rw [List.length_append]
    exact Nat.le_add_right_of_le (h.position p hp)
  cases hcursor : s.watch.bind Watch.cursor with
  | none =>
    exact h.extend [c] (h.history.snoc hlegal) hpos h.fresh (by simp [ResourceWorld.seen, hcursor])
      (fun uid => Nat.le_add_right _ _) fun uid => Nat.le_add_right _ _
  | some p =>
    refine h.extend [] (h.history.snoc hlegal) hpos h.fresh ?_ (fun uid => Nat.le_add_right _ _)
      fun uid => Nat.le_add_right _ _
    simp [ResourceWorld.seen, hcursor, List.take_append_of_le_length (h.position p hcursor)]

theorem ResourceWorld.Inv.reset (h : s.Inv lib asSelector resource) (rw' : ResourceWatcher)
    {watch : Option Watch} (hcursor : watch.bind Watch.cursor = none)
    (hpending : (watch.map Watch.pending).getD [] = []) :
    ResourceWorld.Inv lib asSelector resource { s with rw := rw', watch := watch } := by
  obtain ⟨rest, hrest⟩ := s.seen_append
  refine h.extend rest h.history ?_ (fun _ => hpending) ?_ ?_ ?_
  · intro c hc
    rw [hcursor] at hc
    cases hc
  · simp only [ResourceWorld.seen, hcursor]
    exact hrest
  · intro uid
    simp only [ResourceWorld.pending, hpending, List.countP_nil]
    omega
  · intro uid
    simp only [ResourceWorld.pending, hpending, List.countP_nil]
    omega

theorem ResourceWorld.Inv.learn (h : s.Inv lib asSelector resource) {w : Watch}
    (hw : s.watch = some w) {position : Nat} (hposition : position ≤ s.log.length)
    (more : List (Change Unstructured)) (hmore : s.log.take position = s.seen ++ more)
    {ns : List (Notification Unstructured)} (hadds : ∀ uid, ns.countP
        (fun n => n.adds unstructuredMeta uid && reports lib asSelector resource n) ≤
      births unstructuredMeta uid more)
    (hupdates : ∀ uid, ns.countP
        (fun n => n.updates unstructuredMeta uid && reports lib asSelector resource n) ≤
      changes unstructuredMeta uid more) :
    ResourceWorld.Inv lib asSelector resource
      { s with watch := some ⟨some position, w.pending ++ ns⟩ } := by
  have hpending : s.pending = w.pending := by simp [ResourceWorld.pending, hw]
  refine h.extend more h.history ?_ ?_ hmore ?_ ?_
  · rintro c ⟨⟩
    exact hposition
  · rintro ⟨⟩
  · intro uid
    have := hadds uid
    simp only [ResourceWorld.pending, Option.map_some, Option.getD_some, List.countP_append, hw]
    omega
  · intro uid
    have := hupdates uid
    simp only [ResourceWorld.pending, Option.map_some, Option.getD_some, List.countP_append, hw]
    omega

theorem countP_and_le {α : Type} (p q : α → Bool) (l : List α) :
    l.countP (fun a => p a && q a) ≤ l.countP p :=
  List.countP_mono_left fun _ _ h => (Bool.and_eq_true_iff.mp h).1

section Informed

variable (h : s.Inv lib asSelector resource) {w : Watch} (hw : s.watch = some w)

include h hw

theorem ResourceWorld.Inv.relisted {c : Nat} (hcursor : w.cursor = some c)
    (hord : s.InOrder lib asSelector resource .list) :
    ResourceWorld.Inv lib asSelector resource
      { s with
        watch := some ⟨some s.log.length,
          w.pending ++ relist unstructuredMeta (s.cache w) (objectsAt unstructuredMeta s.log)⟩ } := by
  have hcache : s.cache w = objectsAt unstructuredMeta (s.log.take c) := by
    simp [ResourceWorld.cache, hcursor]
  have hseen : s.seen = s.log.take c := by simp [ResourceWorld.seen, hw, hcursor]
  have hlog := (List.take_append_drop c s.log).symm
  have hord' := (hord w hw).2
  rw [hcache] at hord' ⊢
  refine h.learn hw le_rfl (s.log.drop c) (by rw [List.take_length, hseen, ← hlog]) ?_ ?_
  · exact fun uid => (countP_and_le _ _ _).trans (h.history.relisted_adds hlog)
  · exact fun uid => h.history.relisted_updates hlog hord'

theorem ResourceWorld.Inv.listed (hcursor : w.cursor = none)
    (hord : s.InOrder lib asSelector resource .list) :
    ResourceWorld.Inv lib asSelector resource
      { s with
        watch := some ⟨some s.log.length,
          w.pending ++ relist unstructuredMeta (s.cache w) (objectsAt unstructuredMeta s.log)⟩ } := by
  have hempty : s.pending = [] := h.fresh (by simp [hw, hcursor])
  have hpending : w.pending = [] := by simpa [ResourceWorld.pending, hw] using hempty
  have hcache : s.cache w = [] := by simp [ResourceWorld.cache, hcursor]
  have hseen : s.seen = s.log := by simp [ResourceWorld.seen, hw, hcursor]
  have hord' := (hord w hw).1 hcursor
  rw [hcache, hpending]
  refine ⟨h.history, by simp, by simp, ?_, ?_⟩
  · intro uid
    have hfirst : (relist unstructuredMeta (objectsAt unstructuredMeta [])
        (objectsAt unstructuredMeta s.log)).countP (·.adds unstructuredMeta uid) ≤
          births unstructuredMeta uid s.log := h.history.relisted_adds rfl
    have hborn := (countP_and_le _ (reports lib asSelector resource) _).trans hfirst
    rw [show objectsAt unstructuredMeta [] = [] from rfl] at hborn
    by_cases hnew : createdCount .added uid s.created = 0
    · simpa [ResourceWorld.pending, ResourceWorld.seen, hnew] using hborn
    · obtain ⟨c, hc, hmine⟩ := List.countP_pos_iff.mp (Nat.pos_of_ne_zero hnew)
      obtain ⟨huid, htype⟩ := of_decide_eq_true hmine
      have hnone : (relist unstructuredMeta [] (objectsAt unstructuredMeta s.log)).countP
          (fun n => n.adds unstructuredMeta uid && reports lib asSelector resource n) = 0 := by
        rw [relist_nil, List.countP_eq_zero]
        intro n hn hboth
        obtain ⟨o, ho, rfl⟩ := List.mem_map.mp hn
        obtain ⟨hadds, hreports⟩ := Bool.and_eq_true_iff.mp hboth
        have hsame : o.uid = uid := of_decide_eq_true hadds
        exact hord' o ho hreports c hc htype (huid.trans hsame.symm)
      have hold := h.adds uid
      rw [hempty, hseen] at hold
      simpa [ResourceWorld.pending, ResourceWorld.seen, hnone] using hold
  · intro uid
    have hnone : (relist unstructuredMeta [] (objectsAt unstructuredMeta s.log)).countP
        (fun n => n.updates unstructuredMeta uid && reports lib asSelector resource n) = 0 := by
      rw [relist_nil, List.countP_eq_zero]
      intro n hn
      obtain ⟨o, -, rfl⟩ := List.mem_map.mp hn
      simp [Notification.updates]
    have hold := h.updates uid
    rw [hempty, hseen] at hold
    simpa [ResourceWorld.pending, ResourceWorld.seen, hnone] using hold

theorem ResourceWorld.Inv.delivered {c : Nat} {change : Change Unstructured}
    (hcursor : w.cursor = some c) (hchange : s.log[c]? = some change) :
    ResourceWorld.Inv lib asSelector resource
      { s with
        watch := some ⟨some (c + 1),
          w.pending ++ [change.notification unstructuredMeta (s.cache w)]⟩ } := by
  have hcache : s.cache w = objectsAt unstructuredMeta (s.log.take c) := by
    simp [ResourceWorld.cache, hcursor]
  have hseen : s.seen = s.log.take c := by simp [ResourceWorld.seen, hw, hcursor]
  have hnext : s.log.take (c + 1) = s.log.take c ++ [change] := by
    rw [List.take_add_one, hchange, Option.toList_some]
  have hlt := (List.getElem?_eq_some_iff.mp hchange).1
  have hhistory : History unstructuredMeta (s.log.take c ++ [change]) := by
    rw [← hnext]
    exact fun before c hb => h.history before c (hb.trans (List.take_prefix _ _))
  rw [hcache]
  refine h.learn hw hlt [change] (by rw [hnext, hseen]) ?_ ?_
  · exact fun uid => (countP_and_le _ _ _).trans hhistory.watched.1
  · exact fun uid => (countP_and_le _ _ _).trans hhistory.watched.2

theorem ResourceWorld.Inv.resynced (hord : s.InOrder lib asSelector resource .resync) :
    ResourceWorld.Inv lib asSelector resource
      { s with watch := some ⟨w.cursor, w.pending ++ resync (s.cache w)⟩ } := by
  have hadds : ∀ uid, (resync (s.cache w)).countP
      (fun n => n.adds unstructuredMeta uid && reports lib asSelector resource n) = 0 := by
    simp [resync, List.countP_eq_zero, Notification.adds]
  have hupdates : ∀ uid, (resync (s.cache w)).countP
      (fun n => n.updates unstructuredMeta uid && reports lib asSelector resource n) = 0 := by
    intro uid
    rw [List.countP_eq_zero]
    intro n hn
    obtain ⟨o, ho, rfl⟩ := List.mem_map.mp hn
    simp [hord w hw o ho]
  refine h.extend [] h.history ?_ ?_ ?_ ?_ ?_
  · exact fun c hc => h.position c (by rw [hw]; exact hc)
  · intro hcursor
    have hempty : s.pending = [] := h.fresh (by rw [hw]; exact hcursor)
    have hnone : w.cursor = none := hcursor
    have hpending : w.pending = [] := by simpa [ResourceWorld.pending, hw] using hempty
    simp [ResourceWorld.pending, hpending, ResourceWorld.cache, hnone, resync]
  · simp [ResourceWorld.seen, hw]
  · intro uid
    simp [ResourceWorld.pending, hw, List.countP_append, hadds uid]
  · intro uid
    simp [ResourceWorld.pending, hw, List.countP_append, hupdates uid]

theorem ResourceWorld.Inv.handle {n : Notification Unstructured} (hn : w.pending.head? = some n)
    (inputs : EventInputs) (accepted : Bool) :
    ResourceWorld.Inv lib asSelector resource
      { s.handled lib asSelector trigger resource n inputs accepted with
        watch := some ⟨w.cursor, w.pending.tail⟩ } := by
  have hlog : (s.handled lib asSelector trigger resource n inputs accepted).log = s.log := by
    unfold ResourceWorld.handled
    split <;> rfl
  have hpending : s.pending = [n] ++ w.pending.tail := by
    have hw' : s.pending = w.pending := by simp [ResourceWorld.pending, hw]
    rw [hw', List.singleton_append, List.cons_head?_tail hn]
  refine h.extend [] ?_ ?_ ?_ ?_ ?_ ?_
  · rw [hlog]
    exact h.history
  · rw [hlog]
    exact fun c hc => h.position c (by rw [hw]; exact hc)
  · intro hcursor
    have hempty : s.pending = [] := h.fresh (by rw [hw]; exact hcursor)
    rw [hpending] at hempty
    cases hempty
  · simp [ResourceWorld.seen, hw, hlog]
  · intro uid
    have hcount := @handled_count lib asSelector trigger resource s .added uid n _
      (fun u hu huid => eventHandler_added hu uid huid) inputs accepted
    rw [hpending, List.countP_append]
    simp only [ResourceWorld.pending, Option.map_some, Option.getD_some]
    omega
  · intro uid
    have hcount := @handled_count lib asSelector trigger resource s .modified uid n _
      (fun u hu huid => eventHandler_modified hu uid huid) inputs accepted
    rw [hpending, List.countP_append]
    simp only [ResourceWorld.pending, Option.map_some, Option.getD_some]
    omega

end Informed

theorem ResourceWorld.Inv.step {move : WatchMove} (h : s.Inv lib asSelector resource)
    (hord : s.InOrder lib asSelector resource move)
    (hstep : s.Step lib asSelector trigger resource move s') : s'.Inv lib asSelector resource := by
  obtain ⟨hexec, hlegal⟩ := hstep
  cases move with
  | change c =>
    cases hexec
    exact h.change (hlegal c rfl)
  | register =>
    cases hexec
    refine h.reset _ ?_ ?_
    · cases (s.rw.register trigger).watchers trigger.key.slashed <;> rfl
    · cases (s.rw.register trigger).watchers trigger.key.slashed <;> rfl
  | deregister =>
    cases hexec
    exact h.reset _ rfl rfl
  | list =>
    obtain ⟨w, hw, ⟨⟩⟩ := Option.bind_eq_some_iff.mp hexec
    cases hcursor : w.cursor with
    | none => exact h.listed hw hcursor hord
    | some c => exact h.relisted hw hcursor hord
  | deliver =>
    obtain ⟨w, hw, hexec⟩ := Option.bind_eq_some_iff.mp hexec
    obtain ⟨cursor, hcursor, hexec⟩ := Option.bind_eq_some_iff.mp hexec
    obtain ⟨c, hc, ⟨⟩⟩ := Option.bind_eq_some_iff.mp hexec
    exact h.delivered hw hcursor hc
  | resync =>
    obtain ⟨w, hw, ⟨⟩⟩ := Option.bind_eq_some_iff.mp hexec
    exact h.resynced hw hord
  | handle inputs accepted =>
    obtain ⟨w, hw, hexec⟩ := Option.bind_eq_some_iff.mp hexec
    obtain ⟨n, hn, ⟨⟩⟩ := Option.bind_eq_some_iff.mp hexec
    exact h.handle hw hn inputs accepted
  | others tracker =>
    cases hexec
    exact ⟨h.history, h.position, h.fresh, h.adds, h.updates⟩

end Account

/-! ## Every history -/

/-- Over every history of the objects and of the watchers, in which lists and resyncs are
in order, the Trigger reports each object as added once at most, and as modified no more
often than its version changed. -/
theorem resource_events_sound {lib : GoLib} {asSelector : AsSelector} {trigger : Trigger}
    {resource : ResourceTrigger} {moves : List WatchMove} {s : ResourceWorld}
    (hrun : Run (fun s move s' => s.InOrder lib asSelector resource move ∧
      s.Step lib asSelector trigger resource move s') .start moves s) (uid : String) :
    createdCount .added uid s.created ≤ 1 ∧
      createdCount .modified uid s.created ≤ changes unstructuredMeta uid s.log := by
  have hinv : s.Inv lib asSelector resource := by
    refine hrun.always (ResourceWorld.Inv lib asSelector resource) .start ?_
    rintro s move s' h ⟨hord, hstep⟩
    exact h.step hord hstep
  obtain ⟨rest, hrest⟩ := s.seen_append
  have hbirths := hinv.history.births_le_one uid
  have hadds := hinv.adds uid
  have hupdates := hinv.updates uid
  rw [hrest, births_append] at hbirths
  rw [hrest, changes_append]
  omega

def podLib : GoLib := { (default : GoLib) with toLower := id }

def podResource : ResourceTrigger where
  apiVersion := "v1"
  kind := "Pod"
  events := ["create", "update"]

def podTrigger : Trigger where
  metadata := { name := ⟨"team", "pods"⟩ }
  spec := { type := .resource, resource := some podResource, flowRef := "inspect" }

def webPod (resourceVersion : String) : Unstructured where
  name := ⟨"team", "web"⟩
  uid := "3f2a"
  resourceVersion := resourceVersion

def dbPod : Unstructured where
  name := ⟨"team", "db"⟩
  uid := "9c41"
  resourceVersion := "2"

def podEventAt (t : Time) : EventInputs := ⟨t, t, t, "00"⟩

theorem webPod_legal : Legal unstructuredMeta [] (.created (webPod "1")) :=
  ⟨by simp [objectsAt], by simp [births]⟩

/-- One Pod is there when the Trigger is registered and is changed later, another is created. -/
def podMoves : List WatchMove :=
  [.change (.created (webPod "1")), .register, .list, .handle (podEventAt 0) true,
    .change (.created dbPod), .change (.updated (webPod "3")), .deliver, .deliver,
    .handle (podEventAt second) true, .handle (podEventAt (2 * second)) true]

abbrev PodsRun (s : ResourceWorld) : Prop :=
  Run (fun s move s' => s.InOrder podLib (fun _ => none) podResource move ∧
    s.Step podLib (fun _ => none) podTrigger podResource move s') .start podMoves s

theorem pods_run : ∃ s, PodsRun s ∧ createdCount .added "3f2a" s.created = 1 ∧
    createdCount .added "9c41" s.created = 1 ∧ createdCount .modified "3f2a" s.created = 1 := by
  refine ⟨_, .snoc (.snoc (.snoc (.snoc (.snoc (.snoc (.snoc (.snoc (.snoc (.snoc .nil
    ⟨trivial, rfl, ?_⟩) ⟨trivial, rfl, nofun⟩) ⟨?_, rfl, nofun⟩) ⟨trivial, rfl, nofun⟩)
    ⟨trivial, rfl, ?_⟩) ⟨trivial, rfl, ?_⟩) ⟨trivial, rfl, nofun⟩) ⟨trivial, rfl, nofun⟩)
    ⟨trivial, rfl, nofun⟩) ⟨trivial, rfl, nofun⟩, ?_⟩
  · rintro c ⟨⟩
    exact webPod_legal
  · rintro w ⟨⟩
    refine ⟨?_, ?_⟩
    · rintro - o - - c ⟨⟩
    · rintro old ⟨⟩
  · rintro c ⟨⟩
    refine ⟨?_, by decide⟩
    rintro x (_ | ⟨_, ⟨⟩⟩)
    decide
  · rintro c ⟨⟩
    exact ⟨webPod "1", List.mem_cons_self, rfl, rfl, by decide⟩
  · decide

theorem pods_added_once : ∃ s, PodsRun s ∧
    createdCount .added "3f2a" s.created = 1 ∧ createdCount .added "9c41" s.created = 1 ∧
    createdCount .modified "3f2a" s.created = 1 ∧
    ∀ uid, createdCount .added uid s.created ≤ 1 ∧
      createdCount .modified uid s.created ≤ changes unstructuredMeta uid s.log := by
  obtain ⟨s, hrun, hweb, hdb, hmodified⟩ := pods_run
  exact ⟨s, hrun, hweb, hdb, hmodified, resource_events_sound hrun⟩

/-- A second reconcile of the Trigger reports the same Pod again. -/
theorem pod_added_twice : ∃ s : ResourceWorld, Run
      (ResourceWorld.Step podLib (fun _ => none) podTrigger podResource)
      .start [.change (.created (webPod "1")), .register, .list, .handle (podEventAt 0) true, .register,
        .list, .handle (podEventAt second) true] s ∧
    createdCount .added "3f2a" s.created = 2 := by
  refine ⟨_, .snoc (.snoc (.snoc (.snoc (.snoc (.snoc (.snoc .nil ⟨rfl, ?_⟩) ⟨rfl, nofun⟩)
    ⟨rfl, nofun⟩) ⟨rfl, nofun⟩) ⟨rfl, nofun⟩) ⟨rfl, nofun⟩) ⟨rfl, nofun⟩, ?_⟩
  · rintro c ⟨⟩
    exact webPod_legal
  · decide

end KubeZap
