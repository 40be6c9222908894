import KubeZap.Controller.Kafka
import KubeZap.Foundation.Run

/-! # Producers that several calls share

`publishToKafka` holds its lock while it looks a producer up and while it drops one, and
sends and closes without it. Here producers have an identity, and calls take turns between these
sections. A call whose message fails drops whatever is kept under its brokers. That is its
own producer unless another call has dropped it before; then it is closed again, and what is
dropped in its place is never closed.
-/

namespace KubeZap

open Foundation Function
open Foundation.IdleCache (Cache)

/-! ## The sections of a call -/

/-- Where a call is between its locked sections; a producer is known by its place among those
that were created. -/
inductive PublishStage
  /-- in `SendMessage` -/
  | sending (c : KafkaPublish) (producer : Nat)
  /-- the message failed and the cache was cleared; before `producer.Close` -/
  | closing (c : KafkaPublish) (producer : Nat)

structure KafkaProducers where
  /-- every producer ever created, with its `brokerKey` -/
  created : List (String × Producer) := []
  cache : Cache String Nat := .empty
  /-- the calls of `Close`, in their order -/
  closed : List Nat := []
  calls : Nat → Option PublishStage := fun _ => none

namespace KafkaProducers

variable (lib : GoLib) (c : KafkaPublish) (s : KafkaProducers)

def createKafkaProducer : Except Err Nat × KafkaProducers :=
  match c.newProducer lib with
  | .error err => (.error err, s)
  | .ok p =>
    (.ok s.created.length,
      { s with
        created := s.created ++ [(c.brokerKey, p)]
        cache := s.cache.put c.brokerKey s.created.length c.createdAt })

/-- The locked section in which a producer is looked up; one that is too old is closed in it. -/
def getOrCreateKafkaProducer : Except Err Nat × KafkaProducers :=
  match s.cache.value c.brokerKey with
  | some p =>
    if s.cache.live kafkaProducerIdleTTL c.brokerKey c.checkedAt then (.ok p, s)
    else
      createKafkaProducer lib c
        { s with closed := s.closed ++ [p], cache := s.cache.evict c.brokerKey }
  | none => createKafkaProducer lib c s

def setCall (id : Nat) (stage : Option PublishStage) : KafkaProducers :=
  { s with calls := update s.calls id stage }

end KafkaProducers

inductive PublishMove
  | publish (id : Nat) (c : KafkaPublish)
  /-- `SendMessage` has returned an error: the locked section that follows -/
  | sendFails (id : Nat)
  | close (id : Nat)
  /-- `SendMessage` has succeeded: the locked section that follows, the last of the call -/
  | sent (id : Nat)

def KafkaProducers.move (lib : GoLib) (s : KafkaProducers) : PublishMove → Option KafkaProducers
  | .publish id c =>
    match s.calls id with
    | some _ => none
    | none =>
      match getOrCreateKafkaProducer lib c s with
      | (.error _, s) => some s
      | (.ok producer, s) => some (s.setCall id (some (.sending c producer)))
  | .sendFails id =>
    match s.calls id with
    | some (.sending c producer) =>
      some ({ s with cache := s.cache.evict c.brokerKey }.setCall id
        (some (.closing c producer)))
    | _ => none
  | .close id =>
    match s.calls id with
    | some (.closing _ producer) =>
      some ({ s with closed := s.closed ++ [producer] }.setCall id none)
    | _ => none
  | .sent id =>
    match s.calls id with
    | some (.sending c _) =>
      some ({ s with cache := s.cache.touch c.brokerKey c.sentAt }.setCall id none)
    | _ => none

abbrev KafkaProducers.Step (lib : GoLib) (s : KafkaProducers) (m : PublishMove)
    (s' : KafkaProducers) : Prop :=
  s.move lib m = some s'

namespace KafkaProducers

variable {lib : GoLib} {c : KafkaPublish} {s : KafkaProducers} {id p : Nat}

@[simp] theorem createKafkaProducer_calls : (createKafkaProducer lib c s).2.calls = s.calls := by
  unfold createKafkaProducer
  split <;> rfl

@[simp] theorem getOrCreateKafkaProducer_calls :
    (getOrCreateKafkaProducer lib c s).2.calls = s.calls := by
  unfold getOrCreateKafkaProducer
  split
  · split
    · rfl
    · rw [createKafkaProducer_calls]
  · rw [createKafkaProducer_calls]

def Kept (s : KafkaProducers) : Prop :=
  ∀ k p, s.cache.value k = some p → ∃ q, s.created[p]? = some (k, q)

end KafkaProducers

/-! ## Every producer is accounted for -/

namespace KafkaProducers

/-- A producer is kept, closed, or about to be closed by one call, and never two of these. -/
structure Accounted (s : KafkaProducers) : Prop where
  kept : s.Kept
  keptOpen : ∀ k p, s.cache.value k = some p → p ∉ s.closed
  keptUnclaimed : ∀ k p id c, s.cache.value k = some p → s.calls id ≠ some (.closing c p)
  settled : ∀ (p : Nat) k q, s.created[p]? = some (k, q) → s.cache.value k = some p ∨ p ∈ s.closed ∨
    ∃ id c, s.calls id = some (.closing c p)
  sending : ∀ id c p, s.calls id = some (.sending c p) → ∃ q, s.created[p]? = some (c.brokerKey, q)
  closing : ∀ id c p, s.calls id = some (.closing c p) → p < s.created.length ∧ p ∉ s.closed
  claimedOnce : ∀ id id' c c' p, s.calls id = some (.closing c p) →
    s.calls id' = some (.closing c' p) → id' = id
  known : ∀ p ∈ s.closed, p < s.created.length
  closedOnce : s.closed.Nodup

def Idle (s : KafkaProducers) : Prop := ∀ id, s.calls id = none

/-- A call whose message has failed finds its own producer in the cache. -/
def DropsItsOwn (s : KafkaProducers) : PublishMove → Prop
  | .sendFails id => ∀ c p, s.calls id = some (.sending c p) → s.cache.value c.brokerKey = some p
  | .publish _ _ | .close _ | .sent _ => True

section Invariant

variable {lib : GoLib} {c : KafkaPublish} {s s' : KafkaProducers} {id p : Nat}

theorem accounted_empty : Accounted {} where
  kept _ _ h := by cases h
  keptOpen _ _ h := by cases h
  keptUnclaimed _ _ _ _ h := by cases h
  settled _ _ _ h := by cases h
  sending _ _ _ h := by cases h
  closing _ _ _ h := by cases h
  claimedOnce _ _ _ _ _ h := by cases h
  known _ h := by cases h
  closedOnce := List.nodup_nil

@[grind =]
theorem value_evict {cache : Cache String Nat} {k k' : String} :
    (cache.evict k).value k' = if k' = k then none else cache.value k' :=
  update_apply ..

@[grind =]
theorem value_put {cache : Cache String Nat} {k k' : String} {t : Time} :
    (cache.put k p t).value k' = if k' = k then some p else cache.value k' :=
  update_apply ..

@[grind =]
theorem setCall_calls {stage : Option PublishStage} {id' : Nat} :
    (s.setCall id stage).calls id' = if id' = id then stage else s.calls id' :=
  update_apply ..

theorem Kept.key_eq (h : s.Kept) {k : String} (hk : s.cache.value k = some p) (k' : String)
    (hk' : s.cache.value k' = some p) : k' = k := by
  obtain ⟨q, hq⟩ := h k p hk
  obtain ⟨q', hq'⟩ := h k' p hk'
  cases hq.symm.trans hq'
  rfl

variable (h : s.Accounted)

include h

theorem Accounted.retire {k : String} (hvalue : s.cache.value k = some p) :
    Accounted { s with closed := s.closed ++ [p], cache := s.cache.evict k } := by
  obtain ⟨q, hcreated⟩ := h.kept k p hvalue
  have honly := h.kept.key_eq hvalue
  have hopen := h.keptOpen k p hvalue
  refine ⟨fun k' p' hkept => ?_, fun k' p' hkept => ?_, fun k' p' id c hkept => ?_,
    fun p' k' q' hmade => ?_, h.sending, fun id c p' hcall => ?_, h.claimedOnce,
    fun p' hclosed => ?_, ?_⟩
  · have := h.kept k' p'
    grind
  · have := h.keptOpen k' p'
    grind
  · have := h.keptUnclaimed k' p' id c
    grind
  · have := h.settled p' k' q' hmade
    grind
  · have := h.closing id c p' hcall
    have := h.keptUnclaimed k p id c hvalue
    grind
  · have := h.known p'
    grind
  · have := h.closedOnce
    grind

theorem Accounted.create {q : Producer} {k : String} {t : Time}
    (hnone : s.cache.value k = none) :
    Accounted { s with
      created := s.created ++ [(k, q)], cache := s.cache.put k s.created.length t } := by
  refine ⟨fun k' p' hkept => ?_, fun k' p' hkept => ?_, fun k' p' id c hkept => ?_,
    fun p' k' q' hmade => ?_, fun id c p' hcall => ?_, fun id c p' hcall => ?_, h.claimedOnce,
    fun p' hclosed => ?_, h.closedOnce⟩
  · have := h.kept k' p'
    by_cases hk : k' = k
    · exact ⟨q, by grind⟩
    · grind
  · have := h.keptOpen k' p'
    have := h.known p'
    grind
  · have := h.keptUnclaimed k' p' id c
    have := h.closing id c p'
    grind
  · have := h.settled p' k' q'
    grind
  · have := h.sending id c p' hcall
    grind
  · have := h.closing id c p' hcall
    grind
  · have := h.known p' hclosed
    grind

theorem Accounted.createKafkaProducer (hnone : s.cache.value c.brokerKey = none) :
    (createKafkaProducer lib c s).2.Accounted ∧
      ∀ p, (createKafkaProducer lib c s).1 = .ok p →
        ∃ q, (createKafkaProducer lib c s).2.created[p]? = some (c.brokerKey, q) := by
  unfold KafkaProducers.createKafkaProducer
  cases c.newProducer lib with
  | error err => exact ⟨h, nofun⟩
  | ok q =>
    refine ⟨h.create hnone, ?_⟩
    intro p hp
    cases hp
    exact ⟨q, by simp⟩

theorem Accounted.getOrCreateKafkaProducer :
    (getOrCreateKafkaProducer lib c s).2.Accounted ∧
      ∀ p, (getOrCreateKafkaProducer lib c s).1 = .ok p →
        ∃ q, (getOrCreateKafkaProducer lib c s).2.created[p]? = some (c.brokerKey, q) := by
  unfold KafkaProducers.getOrCreateKafkaProducer
  cases hvalue : s.cache.value c.brokerKey with
  | none => exact h.createKafkaProducer hvalue
  | some p =>
    simp only
    split
    · refine ⟨h, ?_⟩
      intro p' hp'
      cases hp'
      exact h.kept _ _ hvalue
    · refine (h.retire hvalue).createKafkaProducer ?_
      simp [Cache.evict]

theorem Accounted.setCall {stage : Option PublishStage}
    (hold : ∀ c p, s.calls id ≠ some (.closing c p))
    (hnew : ∀ x, stage = some x → ∃ c p, x = .sending c p ∧
      ∃ q, s.created[p]? = some (c.brokerKey, q)) : (s.setCall id stage).Accounted := by
  have hclosing {id' : Nat} {c : KafkaPublish} {p : Nat} :
      (s.setCall id stage).calls id' = some (.closing c p) ↔
        s.calls id' = some (.closing c p) := by
    grind
  refine ⟨h.kept, h.keptOpen, ?_, ?_, fun id' c p hcall => ?_, ?_, ?_, h.known, h.closedOnce⟩
  · exact fun k p id' c hkept hcall => h.keptUnclaimed k p id' c hkept (hclosing.mp hcall)
  · intro p k q hmade
    simp only [hclosing]
    exact h.settled p k q hmade
  · have := h.sending id' c p
    change ∃ q, s.created[p]? = _
    grind
  · simp only [hclosing]
    exact h.closing
  · simp only [hclosing]
    exact h.claimedOnce

theorem Accounted.sendFails (hcall : s.calls id = some (.sending c p))
    (hown : s.cache.value c.brokerKey = some p) :
    Accounted ({ s with cache := s.cache.evict c.brokerKey }.setCall id
      (some (.closing c p))) := by
  obtain ⟨q, hcreated⟩ := h.kept _ _ hown
  have honly := h.kept.key_eq hown
  have hopen := h.keptOpen _ p hown
  have hunclaimed := fun id c => h.keptUnclaimed _ p id c hown
  have hclosing {id' : Nat} {c' : KafkaPublish} {p' : Nat} :
      ({ s with cache := s.cache.evict c.brokerKey }.setCall id
        (some (.closing c p))).calls id' = some (.closing c' p') ↔
      (id' = id ∧ c' = c ∧ p' = p) ∨ s.calls id' = some (.closing c' p') := by
    grind
  refine ⟨fun k p' hkept => ?_, fun k p' hkept => ?_, fun k p' id' c' hkept => ?_,
    fun p' k q' hmade => ?_, fun id' c' p' hsends => ?_, fun id' c' p' hcloses => ?_,
    fun id' id'' c' c'' p' hcloses hcloses' => ?_, h.known, h.closedOnce⟩
  · have := h.kept k p'
    grind [KafkaProducers.setCall]
  · have := h.keptOpen k p'
    grind [KafkaProducers.setCall]
  · have := h.keptUnclaimed k p' id' c'
    grind [KafkaProducers.setCall]
  · rcases h.settled p' k q' hmade with hkept | hclosed | ⟨id', c', hcall'⟩
    · by_cases hk : k = c.brokerKey
      · exact .inr (.inr ⟨id, c, hclosing.mpr (by grind)⟩)
      · exact .inl (value_evict.trans (by grind))
    · exact .inr (.inl hclosed)
    · exact .inr (.inr ⟨id', c', hclosing.mpr (.inr hcall')⟩)
  · have := h.sending id' c' p'
    grind [KafkaProducers.setCall]
  · have := h.closing id' c' p'
    grind [KafkaProducers.setCall]
  · have := h.claimedOnce id' id'' c' c'' p'
    grind

theorem Accounted.close (hcall : s.calls id = some (.closing c p)) :
    Accounted ({ s with closed := s.closed ++ [p] }.setCall id none) := by
  obtain ⟨hlt, hopen⟩ := h.closing id c p hcall
  refine ⟨h.kept, fun k p' hkept => ?_, fun k p' id' c' hkept => ?_, fun p' k q hmade => ?_,
    fun id' c' p' hsends => ?_, fun id' c' p' hcloses => ?_,
    fun id' id'' c' c'' p' hcloses hcloses' => ?_, fun p' hclosed => ?_, ?_⟩
  · have := h.keptOpen k p' hkept
    have := h.keptUnclaimed k p' id c hkept
    grind [KafkaProducers.setCall]
  · have := h.keptUnclaimed k p' id' c' hkept
    grind
  · rcases h.settled p' k q hmade with hkept | hclosed | ⟨id', c', hcall'⟩
    · exact .inl hkept
    · exact .inr (.inl (List.mem_append_left _ hclosed))
    · by_cases hid : id' = id
      · exact .inr (.inl (by grind [KafkaProducers.setCall]))
      · exact .inr (.inr ⟨id', c', setCall_calls.trans (by grind)⟩)
  · have := h.sending id' c' p'
    grind [KafkaProducers.setCall]
  · have := h.closing id' c' p'
    have := h.claimedOnce id id' c c' p'
    grind [KafkaProducers.setCall]
  · have := h.claimedOnce id' id'' c' c'' p'
    grind
  · have := h.known p'
    grind [KafkaProducers.setCall]
  · have := h.closedOnce
    grind [KafkaProducers.setCall]

theorem Accounted.touch {k : String} {t : Time} :
    Accounted { s with cache := s.cache.touch k t } :=
  ⟨h.kept, h.keptOpen, h.keptUnclaimed, h.settled, h.sending, h.closing, h.claimedOnce, h.known,
    h.closedOnce⟩

theorem Accounted.step {m : PublishMove} (hown : s.DropsItsOwn m)
    (hstep : Step lib s m s') : s'.Accounted := by
  cases m with
  | publish id c =>
    simp only [Step, move] at hstep
    split at hstep
    · cases hstep
    next hcall =>
      obtain ⟨hnext, hcreated⟩ := @Accounted.getOrCreateKafkaProducer lib c s h
      have hcalls := @getOrCreateKafkaProducer_calls lib c s
      split at hstep <;> rename_i hget <;> rw [hget] at hnext hcalls hcreated <;> cases hstep
      · exact hnext
      next p _ =>
        refine hnext.setCall ?_ ?_
        · intro c' p' hclosing
          rw [hcalls, hcall] at hclosing
          cases hclosing
        · rintro x ⟨⟩
          exact ⟨c, p, rfl, hcreated p rfl⟩
  | sendFails id =>
    simp only [Step, move] at hstep
    split at hstep <;> cases hstep
    next c p hcall => exact h.sendFails hcall (hown c p hcall)
  | close id =>
    simp only [Step, move] at hstep
    split at hstep <;> cases hstep
    next hcall => exact h.close hcall
  | sent id =>
    simp only [Step, move] at hstep
    split at hstep <;> cases hstep
    next hcall =>
      refine h.touch.setCall ?_ (by rintro x ⟨⟩)
      intro c' p' hclosing
      cases hcall.symm.trans hclosing

end Invariant

end KafkaProducers

/-- In every run whose failing calls all drop their own producer: no producer is closed twice, and
while no call is in flight each is kept under its brokers or closed. -/
theorem kafka_producers_kept_or_closed (lib : GoLib) (moves : List PublishMove) (s : KafkaProducers)
    (hrun : Run (fun s m s' => s.DropsItsOwn m ∧ KafkaProducers.Step lib s m s') {} moves s) :
    s.closed.Nodup ∧ (s.Idle → ∀ (p : Nat) brokerKey producer,
      s.created[p]? = some (brokerKey, producer) →
        s.cache.value brokerKey = some p ∨ p ∈ s.closed) := by
  have h : s.Accounted := by
    refine hrun.always KafkaProducers.Accounted KafkaProducers.accounted_empty ?_
    intro s m s' hs hstep
    exact hs.step hstep.1 hstep.2
  refine ⟨h.closedOnce, ?_⟩
  intro hidle p brokerKey producer hcreated
  rcases h.settled p brokerKey producer hcreated with hkept | hclosed | ⟨id, c, hcall⟩
  · exact .inl hkept
  · exact .inr hclosed
  · rw [hidle id] at hcall
    cases hcall

/-! ## A call on its own

Without other calls in between, the sections are the `publishToKafka` of a sequence of calls. -/

namespace KafkaProducers

/-- The cache as one of producers without identity. -/
def view (s : KafkaProducers) : KafkaCache where
  value k := (s.cache.value k).bind fun p => s.created[p]?.map (·.2)
  lastUsed := s.cache.lastUsed

variable {lib : GoLib} {c : KafkaPublish} {s : KafkaProducers} {id p : Nat} {k : String}

/-- What a section returns, as what the sequential one does. -/
def shown (s : KafkaProducers) (result : Except Err Nat) : Except Err (Option Producer) :=
  result.map fun p => s.created[p]?.map (·.2)

theorem view_evict (closed : List Nat) :
    { s with closed := closed, cache := s.cache.evict k }.view = s.view.evict k := by
  simp only [view, Cache.evict]
  congr 1
  funext k'
  by_cases hk : k' = k <;> simp [hk]

theorem Kept.view_value (h : s.Kept) (hvalue : s.cache.value k = some p) :
    ∃ q, s.view.value k = some q ∧ s.created[p]? = some (k, q) := by
  obtain ⟨q, hq⟩ := h k p hvalue
  exact ⟨q, by simp [view, hvalue, hq], hq⟩

theorem Kept.view_put (h : s.Kept) {q : Producer} {t : Time} :
    { s with
      created := s.created ++ [(k, q)]
      cache := s.cache.put k s.created.length t }.view = s.view.put k q t := by
  simp only [view, Cache.put]
  congr 1
  funext k'
  by_cases hk : k' = k
  · simp [hk]
  · rw [update_of_ne hk, update_of_ne hk]
    cases hvalue : s.cache.value k' with
    | none => rfl
    | some p =>
      obtain ⟨q', hq'⟩ := h k' p hvalue
      obtain ⟨hlt, -⟩ := List.getElem?_eq_some_iff.mp hq'
      rw [Option.bind_some, Option.bind_some, List.getElem?_append_left hlt]

theorem Kept.createKafkaProducer_view (h : s.Kept) :
    ((createKafkaProducer lib c s).2.shown (createKafkaProducer lib c s).1,
      (createKafkaProducer lib c s).2.view) =
    ((KubeZap.createKafkaProducer lib c c.brokerKey s.view).1.map some,
      (KubeZap.createKafkaProducer lib c c.brokerKey s.view).2) := by
  unfold createKafkaProducer KubeZap.createKafkaProducer
  cases c.newProducer lib with
  | error err => rfl
  | ok q => exact Prod.ext (by simp [shown, Except.map]) h.view_put

theorem Kept.getOrCreateKafkaProducer_view (h : s.Kept) :
    ((getOrCreateKafkaProducer lib c s).2.shown (getOrCreateKafkaProducer lib c s).1,
      (getOrCreateKafkaProducer lib c s).2.view) =
    ((KubeZap.getOrCreateKafkaProducer lib c c.brokerKey s.view).1.map some,
      (KubeZap.getOrCreateKafkaProducer lib c c.brokerKey s.view).2) := by
  unfold getOrCreateKafkaProducer KubeZap.getOrCreateKafkaProducer
  cases hvalue : s.cache.value c.brokerKey with
  | none =>
    have hview : s.view.value c.brokerKey = none := by simp [view, hvalue]
    rw [hview]
    exact h.createKafkaProducer_view
  | some p =>
    obtain ⟨q, hview, hq⟩ := h.view_value hvalue
    have hlive : s.view.live kafkaProducerIdleTTL c.brokerKey c.checkedAt =
        s.cache.live kafkaProducerIdleTTL c.brokerKey c.checkedAt := rfl
    rw [hview]
    dsimp only
    rw [hlive]
    split
    · simp [shown, Except.map, hq]
    · have hkept : Kept { s with closed := s.closed ++ [p], cache := s.cache.evict c.brokerKey } :=
        fun k' p' hk => h k' p' (by grind)
      rw [hkept.createKafkaProducer_view, view_evict]

/-- The sections of a call that is given `producer`. -/
def sections (c : KafkaPublish) (id : Nat) : Except Err Producer → List PublishMove
  | .error _ => [.publish id c]
  | .ok producer =>
    match c.deliver producer c.message with
    | .error _ => [.publish id c, .sendFails id, .close id]
    | .ok _ => [.publish id c, .sent id]

theorem Kept.publish_undisturbed (h : s.Kept) (hid : s.calls id = none) :
    ∃ s', Run (Step lib) s
        (sections c id (KubeZap.getOrCreateKafkaProducer lib c c.brokerKey s.view).1) s' ∧
      s'.calls = s.calls ∧ s'.view = (publishToKafka lib c s.view).2 := by
  have hview := @Kept.getOrCreateKafkaProducer_view lib c s h
  have hcalls := @getOrCreateKafkaProducer_calls lib c s
  unfold publishToKafka
  rcases hget : getOrCreateKafkaProducer lib c s with ⟨result, s₁⟩
  rcases hseq : KubeZap.getOrCreateKafkaProducer lib c c.brokerKey s.view with ⟨result', cache⟩
  rw [hget, hseq] at hview
  rw [hget] at hcalls
  obtain ⟨hresult, rfl⟩ := Prod.mk.inj hview
  have hback : update s₁.calls id none = s.calls := by
    rw [hcalls]
    exact update_eq_self_iff.mpr hid.symm
  cases result with
  | error err =>
    cases result' with
    | ok q => cases hresult
    | error err' =>
      exact ⟨s₁, Run.foldlM (fun _ h => h) (by simp [sections, move, hid, hget]), hcalls, rfl⟩
  | ok p =>
    cases result' with
    | error err' => cases hresult
    | ok q =>
      dsimp only [sections]
      cases c.deliver q c.message with
      | error err =>
        refine ⟨{ s₁ with cache := s₁.cache.evict c.brokerKey, closed := s₁.closed ++ [p],
                          calls := s.calls },
          Run.foldlM (fun _ h => h) ?_, rfl, view_evict s₁.closed⟩
        simp [move, hid, hget, setCall, hback]
      | ok sent =>
        refine ⟨{ s₁ with cache := s₁.cache.touch c.brokerKey c.sentAt, calls := s.calls },
          Run.foldlM (fun _ h => h) ?_, rfl, rfl⟩
        simp [move, hid, hget, setCall, hback]

end KafkaProducers

/-! ## Two calls with one producer -/

instance (s : KafkaProducers) (m : PublishMove) : Decidable (s.DropsItsOwn m) :=
  match m with
  | .sendFails id =>
    match h : s.calls id with
    | some (.sending c p) =>
      decidable_of_iff (s.cache.value c.brokerKey = some p) (by
        constructor
        · intro hown c' p' hcall
          cases h.symm.trans hcall
          exact hown
        · intro hown
          exact hown c p h)
    | some (.closing _ _) => .isTrue fun _ _ hcall => nomatch h.symm.trans hcall
    | none => .isTrue fun _ _ hcall => nomatch h.symm.trans hcall
  | .publish _ _ | .close _ | .sent _ => .isTrue trivial

def KafkaProducers.moveOwn (lib : GoLib) (s : KafkaProducers) (m : PublishMove) :
    Option KafkaProducers :=
  if s.DropsItsOwn m then s.move lib m else none

def PublishMove.id : PublishMove → Nat
  | .publish id _ | .sendFails id | .close id | .sent id => id

theorem KafkaProducers.step_calls {lib : GoLib} {s s' : KafkaProducers} {m : PublishMove}
    {id : Nat} (h : Step lib s m s') (hid : id ≠ m.id) : s'.calls id = s.calls id := by
  cases m with
  | publish id' c =>
    simp only [Step, move] at h
    split at h
    · cases h
    · have hcalls : (getOrCreateKafkaProducer lib c s).2.calls = s.calls :=
        getOrCreateKafkaProducer_calls
      split at h <;> rename_i hget <;> rw [hget] at hcalls <;> cases h
      · rw [hcalls]
      · rw [← hcalls]
        exact update_of_ne hid _ _
  | sendFails id' | close id' | sent id' =>
    simp only [Step, move] at h
    split at h <;> cases h
    exact update_of_ne hid _ _

def redPublish : KafkaPublish := teamPublish "red" ["red:9092"]

/-- Two calls share a producer, and the message of one of them fails. -/
def oneMessageFails : List PublishMove :=
  [.publish 0 redPublish, .publish 1 redPublish, .sent 1, .sendFails 0, .close 0]

theorem kafka_producer_closed_after_failure : ∃ s : KafkaProducers,
    s.created.length = 1 ∧ s.closed = [0] ∧
    s.closed.Nodup ∧ (s.Idle → ∀ (p : Nat) brokerKey producer,
      s.created[p]? = some (brokerKey, producer) →
        s.cache.value brokerKey = some p ∨ p ∈ s.closed) := by
  have hend : (oneMessageFails.foldlM (KafkaProducers.moveOwn default) {}).any
      (fun s => s.created.length = 1 ∧ s.closed = [0]) = true := by decide +kernel
  obtain ⟨s, hmoves, hs⟩ := (Option.any_eq_true _ _).mp hend
  obtain ⟨hcreated, hclosed⟩ := of_decide_eq_true hs
  refine ⟨s, hcreated, hclosed, kafka_producers_kept_or_closed default oneMessageFails s ?_⟩
  exact Run.foldlM (fun _ => Option.ite_none_right_eq_some.mp) hmoves

/-- Two calls share a producer and both messages fail; a third call gets a new producer between
the two failures. -/
def bothMessagesFail : List PublishMove :=
  [.publish 0 redPublish, .publish 1 redPublish, .sendFails 0, .publish 2 redPublish,
    .sendFails 1, .close 0, .close 1, .sent 2]

/-- The shared producer is closed twice; the producer of the third call is dropped by the second
failure, and nothing closes it. -/
theorem kafka_producer_closed_twice_and_leaked : ∃ s : KafkaProducers,
    Run (KafkaProducers.Step default) {} bothMessagesFail s ∧ s.Idle ∧
      s.closed = [0, 0] ∧ (s.created.map (·.1)) = ["red:9092", "red:9092"] ∧
      s.cache.value "red:9092" = none := by
  have hend : (bothMessagesFail.foldlM (KafkaProducers.move default) {}).any
      (fun s => s.closed = [0, 0] ∧ s.created.map (·.1) = ["red:9092", "red:9092"] ∧
        s.cache.value "red:9092" = none ∧ ∀ id < 3, (s.calls id).isNone) = true := by
    decide +kernel
  obtain ⟨s, hmoves, hs⟩ := (Option.any_eq_true _ _).mp hend
  obtain ⟨hclosed, hcreated, hvalue, hcalls⟩ := of_decide_eq_true hs
  have hrun : Run (KafkaProducers.Step default) {} bothMessagesFail s :=
    Run.foldlM (fun _ h => h) hmoves
  refine ⟨s, hrun, ?_, hclosed, hcreated, hvalue⟩
  intro id
  by_cases hid : id < 3
  · exact Option.isNone_iff_eq_none.mp (hcalls id hid)
  · refine hrun.always_mem (fun s => s.calls id = none) rfl ?_
    intro s m s' hm hnone hstep
    refine (KafkaProducers.step_calls hstep ?_).trans hnone
    have hm' : ∀ m ∈ bothMessagesFail, m.id < 3 := by decide
    have := hm' m hm
    omega

end KubeZap
