import KubeZap.Foundation.Protocol
import KubeZap.Foundation.Run
import KubeZap.Gateway.SubscriptionConfig

/-! # The three informers of a broker gateway

The Trigger, Secret and Integration informers each hand their events to the handlers one
after the other, and nothing orders the three goroutines: they interleave at every single
operation. Between the look at the map of subscriptions and the store of a new one lie
other operations, so a store may hide a subscription that still runs. As long as no two
goroutines are at work on one Trigger, what a handler has seen of its subscription still
holds when it stores: none is hidden, and a Trigger that has gone stays without one.
-/

namespace KubeZap.Gateway

open Foundation Function

/-! ## Goroutines and their calls -/

inductive Informer
  | triggers
  | secrets
  | integrations
deriving DecidableEq

inductive Call
  | upsertTrigger (trigger : Trigger)
  | deleteTrigger (trigger : Trigger)
  | changeSecret (name : NamespacedName)
  | changeIntegration (name : NamespacedName)

def Call.informer : Call → Informer
  | .upsertTrigger _ | .deleteTrigger _ => .triggers
  | .changeSecret _ => .secrets
  | .changeIntegration _ => .integrations

section Calls

variable (B : Broker)

def Call.handle : Call → WatchProgram B Unit
  | .upsertTrigger trigger => reconcileTrigger B trigger
  | .deleteTrigger trigger => onTriggerDelete B trigger
  | .changeSecret name => handleSecretChange B name
  | .changeIntegration name => handleIntegrationChange B name

/-- The Trigger of an event of the Trigger informer, and whether it is gone with it: deleted,
disabled, or of another type. -/
def Call.event : Call → Option (NamespacedName × Bool)
  | .upsertTrigger trigger => some (trigger.key, (B.watch trigger).isNone)
  | .deleteTrigger trigger => some (trigger.key, true)
  | .changeSecret _ | .changeIntegration _ => none

/-- The watcher, what each goroutine has left of its call, the Trigger it is at work on, and
the Triggers whose last event was their end. -/
structure Process where
  watcher : Watcher B
  left : Informer → WatchProgram B Unit
  busy : Informer → Option NamespacedName
  gone : NamespacedName → Bool

def Process.start : Process B := ⟨.start B, fun _ => .pure (), fun _ => none, fun _ => false⟩

end Calls

namespace Process

variable {B : Broker}

def Idle (p : Process B) (informer : Informer) : Prop := p.left informer = .pure ()

/-- The Trigger informer is at work on the Trigger of its event from the start. -/
def begin (p : Process B) (call : Call) : Process B where
  watcher := p.watcher
  left := update p.left call.informer (call.handle B)
  busy := update p.busy call.informer ((call.event B).map Prod.fst)
  gone := match call.event B with
    | none => p.gone
    | some (key, ends) => update p.gone key ends

/-- A replay turns to a Trigger when it reads it from the map. -/
def turn (p : Process B) (informer : Informer) :
    Req B.Remembered B.Config → Informer → Option NamespacedName
  | .getTrigger key => update p.busy informer (some key)
  | _ => p.busy

inductive Label
  | call (call : Call)
  | operation (informer : Informer)

/-- A goroutine without a call takes one up, or one with a call makes its next operation.
Reads may answer anything, and connections may fail. -/
inductive Step : Process B → Label → Process B → Prop
  | call {p : Process B} (call : Call) : p.Idle call.informer → Step p (.call call) (p.begin call)
  | operation {p : Process B} {informer : Informer} {q : Req B.Remembered B.Config}
      {k : q.Reply → WatchProgram B Unit} {x : q.Reply} {w' : Watcher B} (s : Sources) :
      p.left informer = .call q k → Req.env s p.watcher q x w' →
      Step p (.operation informer)
        { p with
          watcher := w'
          left := update p.left informer (k x)
          busy := p.turn informer q }

def WorksOn (p : Process B) (informer : Informer) (key : NamespacedName) : Prop :=
  p.busy informer = some key ∧ ¬ p.Idle informer

/-- No two goroutines are at work on one Trigger. -/
def Apart (p : Process B) : Prop :=
  ∀ i j key, p.WorksOn i key → p.WorksOn j key → i = j

end Process

/-! ## What a handler does to a Trigger -/

/-- A goroutine's work on a Trigger: whether it is to be subscribed to, and what is stored for it,
where that is known. -/
structure Work (B : Broker) where
  key : NamespacedName
  wanted : Bool
  found : Option (Option (Subscription B.Remembered B.Config))

def Work.Found {B : Broker} (work : Work B) (w : Watcher B) : Prop :=
  ∀ x, work.found = some x → w.subscriptions work.key = x

section Handlers

variable {B : Broker}

def Req.Aside : Req B.Remembered B.Config → Prop
  | .updateIndex .. | .removeIndex .. | .objectsFor .. | .read _ | .swapCredentialFailed ..
  | .deleteCredentialFailed _ | .event .. | .connect _ => True
  | _ => False

def Req.Credible : (q : Req B.Remembered B.Config) → q.Reply → Prop
  | .getTrigger key, x => ∀ t, x = some t → t.key = key
  | .storeSubscription key _ _, sub => sub.key = key
  | _, _ => True

/-- A subscription is stored only for a Trigger that is wanted and has none, and given up only by
the goroutine that has stored it. -/
inductive Moves (B : Broker) (informer : Informer) : Protocol (Option (Work B)) Req.Reply
  | aside (σ : Option (Work B)) {q : Req B.Remembered B.Config} (x : q.Reply) : q.Aside →
      Moves B informer σ q x σ
  | take (σ : Option (Work B)) (t : Trigger) : informer ≠ .triggers →
      Moves B informer σ (.getTrigger t.key) (some t) (some ⟨t.key, (B.watch t).isSome, none⟩)
  | miss (σ : Option (Work B)) (key : NamespacedName) : informer ≠ .triggers →
      Moves B informer σ (.getTrigger key) none none
  | set {work : Work B} {t : Trigger} : t.key = work.key → (B.watch t).isSome = work.wanted →
      Moves B informer (some work) (.setTrigger work.key t) () (some work)
  | delete {work : Work B} : work.wanted = false →
      Moves B informer (some work) (.deleteTrigger work.key) () (some work)
  | load {work : Work B} (x : Option (Subscription B.Remembered B.Config)) :
      Moves B informer (some work) (.loadSubscription work.key) x
        (some { work with found := some x })
  | stop {work : Work B} :
      Moves B informer (some work) (.stopSubscription work.key) ()
        (some { work with found := some none })
  | store {work : Work B} {remembered : B.Remembered} {config : B.Config}
      {sub : Subscription B.Remembered B.Config} : work.wanted = true → work.found = some none →
      sub.key = work.key →
      Moves B informer (some work) (.storeSubscription work.key remembered config) sub
        (some { work with found := some (some sub) })
  | discard {work : Work B} {sub : Subscription B.Remembered B.Config} :
      work.found = some (some sub) → sub.key = work.key →
      Moves B informer (some work) (.discard sub) () (some { work with found := some none })

/-- `startSubscription` stores for its own Trigger, which has to have nothing stored. -/
def Broker.Orderly (B : Broker) : Prop :=
  ∀ (informer : Informer) (trigger : Trigger) (watch : B.Watch) (spec : B.Spec)
    (creds : Resolved B.Values),
    Follows (Moves B informer) Req.Credible (fun _ _ => True) (some ⟨trigger.key, true, some none⟩)
      (B.startSubscription trigger watch spec creds)

section Follow

variable {informer : Informer} {trigger : Trigger} {watch : B.Watch} {σ : Option (Work B)}

theorem follows_aside {α : Type} {q : Req B.Remembered B.Config} {f : q.Reply → WatchProgram B α}
    (hq : q.Aside) (hf : ∀ x, Follows (Moves B informer) Req.Credible (fun _ _ => True) σ (f x)) :
    Follows (Moves B informer) Req.Credible (fun _ _ => True) σ (Req.send q >>= f) :=
  fun x _ => ⟨σ, .aside σ x hq, hf x⟩

theorem follows_asked {p : WatchProgram B Unit} (h : p.Asks Req.Aside) :
    Follows (Moves B informer) Req.Credible (fun σ' _ => σ' = σ) σ p :=
  h.follows fun _ x hq => .aside σ x hq

theorem follows_read {α : Type} (p : ReadProgram α) :
    Follows (Moves B informer) Req.Credible (fun σ' _ => σ' = σ) σ
      (p.lift Req.read (fun _ x => x)) :=
  (Follows.lift (fun q x => .aside σ (q := .read q) x trivial) p).weaken fun _ _ h => h.1

theorem follows_stop {work : Work B} :
    Follows (Moves B informer) Req.Credible (fun _ _ => True) (some work)
      (Req.send (.stopSubscription work.key)) :=
  fun _ _ => ⟨_, .stop, trivial⟩

theorem follows_startConnected {key : NamespacedName} {remembered : B.Remembered}
    (built : Except String B.Config) :
    Follows (Moves B informer) Req.Credible (fun _ _ => True) (some ⟨key, true, some none⟩)
      (startConnected key remembered built) := by
  cases built with
  | error err => trivial
  | ok config =>
    refine follows_aside trivial fun failed => ?_
    cases failed with
    | some err => trivial
    | none => exact fun sub hsub => ⟨_, .store rfl rfl hsub, trivial⟩

theorem BrokerType.orderly (lib : WatcherLib) (type : BrokerType) : (type.broker lib).Orderly := by
  intro informer trigger watch spec creds
  cases type with
  | kafka | nats => exact follows_startConnected _
  | amqp =>
    refine (follows_read _).bind ?_
    rintro _ config rfl sub hsub
    refine ⟨_, .store rfl rfl hsub, ?_⟩
    dsimp only [Program.bind]
    split
    · exact fun _ _ => ⟨_, .discard rfl hsub, trivial⟩
    · trivial

theorem asks_recordFailure (integrationName err : String) :
    (recordCredentialFailure B trigger integrationName err).Asks Req.Aside :=
  .request trivial fun _ => ⟨trivial, fun _ => trivial⟩

theorem asks_recordSuccess (integrationName : String) :
    (recordCredentialSuccess B trigger integrationName).Asks Req.Aside := by
  refine .request trivial fun _ => ?_
  split
  · exact ⟨trivial, fun _ => trivial⟩
  · trivial

theorem follows_recordFailure (integrationName err : String) :
    Follows (Moves B informer) Req.Credible (fun _ _ => True) σ
      (recordCredentialFailure B trigger integrationName err) :=
  (follows_asked (asks_recordFailure integrationName err)).weaken fun _ _ _ => trivial

variable (horderly : B.Orderly) {found : Option (Option (Subscription B.Remembered B.Config))}

include horderly

theorem follows_applySubscription (spec : B.Spec) (creds : Resolved B.Values) :
    Follows (Moves B informer) Req.Credible (fun _ _ => True) (some ⟨trigger.key, true, found⟩)
      (applySubscription B trigger watch spec creds) := by
  have hstart : Follows (Moves B informer) Req.Credible (fun _ _ => True)
      (some ⟨trigger.key, true, some none⟩) (startLogged B trigger watch spec creds) :=
    (horderly informer trigger watch spec creds).bind fun _ _ _ => trivial
  rw [applySubscription, Program.request_bind]
  intro x _
  refine ⟨_, .load x, ?_⟩
  cases x with
  | none => exact hstart
  | some sub =>
    dsimp only
    split
    · trivial
    · exact fun _ _ => ⟨_, .stop, hstart⟩

theorem follows_reconcileSpec (spec : B.Spec) :
    Follows (Moves B informer) Req.Credible (fun _ _ => True) (some ⟨trigger.key, true, found⟩)
      (reconcileSpec B trigger watch spec) := by
  refine (follows_read _).bind ?_
  rintro _ ⟨creds, credErr⟩ rfl
  refine follows_aside trivial fun _ => ?_
  cases credErr with
  | some err => exact follows_recordFailure _ err
  | none =>
    refine (follows_asked (asks_recordSuccess _)).bind ?_
    rintro _ _ rfl
    exact follows_applySubscription horderly spec creds

theorem follows_reconcileTrigger :
    Follows (Moves B informer) Req.Credible (fun _ _ => True)
      (some ⟨trigger.key, (B.watch trigger).isSome, found⟩) (reconcileTrigger B trigger) := by
  rw [reconcileTrigger, Program.request_bind]
  intro _ _
  refine ⟨_, .set rfl rfl, ?_⟩
  cases hwatch : B.watch trigger with
  | none => exact follows_aside trivial fun _ => follows_aside trivial fun _ => follows_stop
  | some watch =>
    refine follows_aside trivial fun _ => follows_aside trivial fun read => ?_
    cases read with
    | error err => exact follows_recordFailure _ err
    | ok integration =>
      dsimp only
      split
      · exact follows_recordFailure _ _
      · exact follows_reconcileSpec horderly _

theorem follows_reprocess (hreplay : informer ≠ .triggers) (affected : List NamespacedName)
    (σ : Option (Work B)) :
    Follows (Moves B informer) Req.Credible (fun _ _ => True) σ (reprocess B affected) := by
  induction affected generalizing σ with
  | nil => trivial
  | cons key rest ih =>
    intro x hx
    cases x with
    | none => exact ⟨none, .miss σ key hreplay, ih none⟩
    | some t =>
      obtain rfl := hx t rfl
      exact ⟨_, .take σ t hreplay, (follows_reconcileTrigger horderly).bind fun σ' _ _ => ih σ'⟩

end Follow

def Call.work (call : Call) : Option (Work B) :=
  (call.event B).map fun event => ⟨event.1, !event.2, none⟩

theorem follows_handle (horderly : B.Orderly) (call : Call) :
    Follows (Moves B call.informer) Req.Credible (fun _ _ => True) call.work (call.handle B) := by
  cases call with
  | upsertTrigger trigger =>
    have hwork : (Call.upsertTrigger trigger).work =
        some (⟨trigger.key, (B.watch trigger).isSome, none⟩ : Work B) := by
      simp [Call.work, Call.event]
    rw [hwork]
    exact follows_reconcileTrigger horderly
  | deleteTrigger trigger =>
    intro _ _
    refine ⟨_, .delete rfl, ?_⟩
    exact follows_aside trivial fun _ => follows_aside trivial fun _ =>
      follows_aside trivial fun _ => follows_stop
  | changeSecret name =>
    exact follows_aside trivial fun affected =>
      @follows_reprocess B .secrets horderly nofun affected none
  | changeIntegration name =>
    exact follows_aside trivial fun affected =>
      @follows_reprocess B .integrations horderly nofun affected none

end Handlers

/-! ## What a handler has to do -/

section Duties

variable {B : Broker} {key : NamespacedName}

/-- The Trigger is taken from the map, or stored there as one that is not watched. -/
def Unsets (B : Broker) (key : NamespacedName) (q : Req B.Remembered B.Config) : Prop :=
  q = .deleteTrigger key ∨ ∃ t, q = .setTrigger key t ∧ B.watch t = none

theorem Call.must_unset {call : Call} (h : call.event B = some (key, true)) :
    (call.handle B).Must (Unsets B key) := by
  cases call with
  | upsertTrigger trigger =>
    simp only [Call.event, Option.some.injEq, Prod.mk.injEq, Option.isNone_iff_eq_none] at h
    obtain ⟨rfl, hwatch⟩ := h
    exact .inl (.inr ⟨trigger, rfl, hwatch⟩)
  | deleteTrigger trigger =>
    simp only [Call.event, Option.some.injEq, Prod.mk.injEq, and_true] at h
    subst h
    exact .inl (.inl rfl)
  | changeSecret | changeIntegration => cases h

theorem Call.must_stop {call : Call} (h : call.event B = some (key, true)) :
    (call.handle B).Must (· = .stopSubscription key) := by
  cases call with
  | upsertTrigger trigger =>
    simp only [Call.event, Option.some.injEq, Prod.mk.injEq, Option.isNone_iff_eq_none] at h
    obtain ⟨rfl, hwatch⟩ := h
    change (reconcileTrigger B trigger).Must _
    unfold reconcileTrigger
    rw [hwatch]
    exact .inr fun _ => .inr fun _ => .inr fun _ => .inl rfl
  | deleteTrigger trigger =>
    simp only [Call.event, Option.some.injEq, Prod.mk.injEq, and_true] at h
    subst h
    exact .inr fun _ => .inr fun _ => .inr fun _ => .inr fun _ => .inl rfl
  | changeSecret | changeIntegration => cases h

end Duties

/-! ## What an operation leaves -/

section Operations

variable {B : Broker} {w w' : Watcher B} {s : Sources} {informer : Informer}
variable {σ σ' : Option (Work B)} {q : Req B.Remembered B.Config} {x : q.Reply}
variable {key : NamespacedName}

theorem Watcher.subscriptions_stop (key : NamespacedName) :
    (w.stop key).subscriptions = update w.subscriptions key none := by
  unfold Watcher.stop
  cases hsub : w.subscriptions key with
  | none => exact (hsub ▸ update_eq_self key w.subscriptions).symm
  | some sub => exact Watcher.subscriptions_setSubscription ..

theorem Watcher.triggers_stop (key : NamespacedName) : (w.stop key).triggers = w.triggers := by
  unfold Watcher.stop
  split <;> rfl

theorem Req.Aside.same (hq : q.Aside) (henv : Req.env s w q x w') :
    w'.triggers = w.triggers ∧ w'.subscriptions = w.subscriptions ∧ w'.live = w.live := by
  cases q <;> first | exact hq.elim | simp_all [Req.env, Watcher.setIndex]

/-- An operation leaves both maps as they are, or changes one of them for the Trigger at work. -/
inductive Effect (w w' : Watcher B) : Option (Work B) → Option (Work B) → Prop
  | same {σ σ' : Option (Work B)} : w'.triggers = w.triggers →
      w'.subscriptions = w.subscriptions → w'.live = w.live →
      (∀ work ∈ σ', work ∈ σ ∨ work.Found w) → Effect w w' σ σ'
  | trigger {work : Work B} (t : Option Trigger) :
      (∀ t' ∈ t, t'.key = work.key ∧ (B.watch t').isSome = work.wanted) →
      w'.triggers = update w.triggers work.key t → w'.subscriptions = w.subscriptions →
      w'.live = w.live → Effect w w' (some work) (some work)
  | subscription {work : Work B} (y : Option (Subscription B.Remembered B.Config)) :
      (y.isSome → work.wanted = true) → w'.triggers = w.triggers →
      w'.subscriptions = update w.subscriptions work.key y →
      (work.Found w → w.Coherent → w'.Coherent) →
      Effect w w' (some work) (some { work with found := some y })

theorem Moves.effect (hmove : Moves B informer σ q x σ') (henv : Req.env s w q x w') :
    Effect w w' σ σ' := by
  cases hmove with
  | aside _ _ hq =>
    obtain ⟨htriggers, hsubs, hlive⟩ := hq.same henv
    exact .same htriggers hsubs hlive fun _ => .inl
  | take | miss =>
    obtain ⟨-, rfl⟩ := henv
    refine .same rfl rfl rfl ?_
    rintro _ ⟨⟩
    all_goals exact .inr nofun
  | load =>
    obtain ⟨rfl, rfl⟩ := henv
    refine .same rfl rfl rfl ?_
    rintro _ ⟨⟩
    exact .inr fun _ h => Option.some.inj h
  | set hkey hwatch =>
    obtain rfl := henv
    exact .trigger _ (fun _ ht => by cases ht; exact ⟨hkey, hwatch⟩) rfl rfl rfl
  | delete =>
    obtain rfl := henv
    exact .trigger none (fun _ ht => by cases ht) rfl rfl rfl
  | stop =>
    obtain rfl := henv
    exact .subscription none nofun (Watcher.triggers_stop _) (Watcher.subscriptions_stop _)
      fun _ h => h.stop _
  | store htrue hnone hsub =>
    obtain ⟨rfl, rfl⟩ := henv
    exact .subscription _ (fun _ => htrue) rfl rfl fun hfound h => h.store (hfound none hnone)
  | @discard work sub hsome hsub =>
    obtain rfl := henv
    refine .subscription none nofun rfl
      (hsub ▸ Watcher.subscriptions_setSubscription ..) fun hfound h => h.discard ?_
    intro found hstored
    rw [hsub, hfound _ hsome] at hstored
    exact (Option.some.inj hstored).symm

/-- Other Triggers keep what is stored for them. -/
theorem Effect.frame (h : Effect w w' σ σ') (hkey : ∀ work ∈ σ, work.key ≠ key) :
    w'.triggers key = w.triggers key ∧ w'.subscriptions key = w.subscriptions key := by
  cases h with
  | same htriggers hsubs => exact ⟨congrFun htriggers key, congrFun hsubs key⟩
  | @trigger work t _ htriggers hsubs =>
    rw [htriggers, hsubs]
    exact ⟨update_of_ne (hkey work rfl).symm .., rfl⟩
  | @subscription work y _ htriggers hsubs =>
    rw [htriggers, hsubs]
    exact ⟨rfl, update_of_ne (hkey work rfl).symm ..⟩

theorem Effect.found (h : Effect w w' σ σ') (hfound : ∀ work ∈ σ, work.Found w) :
    ∀ work ∈ σ', work.Found w' := by
  intro work hwork y hy
  cases h with
  | same _ hsubs _ hknown =>
    rw [hsubs]
    exact (hknown work hwork).elim (fun hmem => hfound work hmem y hy) fun hw => hw y hy
  | trigger _ _ _ hsubs =>
    rw [hsubs]
    exact hfound work hwork y hy
  | subscription _ _ _ hsubs =>
    cases hwork
    cases hy
    rw [hsubs]
    exact update_self ..

theorem Effect.coherent (h : Effect w w' σ σ') (hfound : ∀ work ∈ σ, work.Found w)
    (hw : w.Coherent) : w'.Coherent := by
  cases h with
  | same _ hsubs hlive | trigger _ _ _ hsubs hlive => exact hw.congr hsubs hlive
  | @subscription work _ _ _ _ hcoherent => exact hcoherent (hfound work rfl) hw

theorem Effect.keyed (h : Effect w w' σ σ') (hw : ∀ key t, w.triggers key = some t → t.key = key) :
    ∀ key t, w'.triggers key = some t → t.key = key := by
  cases h with
  | same htriggers | subscription _ _ htriggers => exact htriggers ▸ hw
  | trigger t ht htriggers =>
    rw [htriggers]
    exact @update_named Trigger _ Trigger.key hw _ _ fun t' ht' => (ht t' ht').1

/-- For a Trigger that is not wanted nothing is stored. -/
theorem Effect.unwanted (h : Effect w w' σ σ')
    (hwanted : ∀ work ∈ σ, work.key = key → work.wanted = false) :
    ((∀ t, w.triggers key = some t → B.watch t = none) →
      ∀ t, w'.triggers key = some t → B.watch t = none) ∧
    (w.subscriptions key = none → w'.subscriptions key = none) := by
  by_cases hkey : ∃ work ∈ σ, work.key = key
  · obtain ⟨work, rfl, rfl⟩ := hkey
    have hfalse := hwanted work rfl rfl
    cases h with
    | same htriggers hsubs =>
      rw [htriggers, hsubs]
      exact ⟨id, id⟩
    | trigger t ht htriggers hsubs =>
      rw [htriggers, hsubs, update_self]
      refine ⟨fun _ t' ht' => ?_, id⟩
      simpa [hfalse] using (ht t' ht').2
    | subscription y hy htriggers hsubs =>
      rw [htriggers, hsubs, update_self]
      refine ⟨id, fun _ => ?_⟩
      cases y with
      | none => rfl
      | some sub => cases hfalse.symm.trans (hy rfl)
  · obtain ⟨htriggers, hsubs⟩ := h.frame fun work hwork heq => hkey ⟨work, hwork, heq⟩
    rw [htriggers, hsubs]
    exact ⟨id, id⟩

/-- Work on a Trigger goes on as it is, or the Trigger was just read. -/
theorem Moves.continues (hmove : Moves B informer σ q x σ') {work' : Work B}
    (hwork' : σ' = some work') (p : Process B) :
    (∃ work ∈ σ, work'.key = work.key ∧ work'.wanted = work.wanted ∧ p.turn informer q = p.busy) ∨
    ∃ t, informer ≠ .triggers ∧ work'.key = t.key ∧ work'.wanted = (B.watch t).isSome ∧
      p.turn informer q = update p.busy informer (some t.key) ∧
      ∀ {s w w'}, Req.env s w q x w' → w.triggers t.key = some t := by
  cases hmove with
  | @aside σ q _ hq =>
    refine .inl ⟨work', hwork', rfl, rfl, ?_⟩
    cases q <;> first | rfl | exact hq.elim
  | take σ t hreplay =>
    cases hwork'
    exact .inr ⟨t, hreplay, rfl, rfl, rfl, fun henv => henv.1.symm⟩
  | miss => cases hwork'
  | set | delete | load | stop | store | discard =>
    cases hwork'
    exact .inl ⟨_, rfl, rfl, rfl, rfl⟩

/-- The Trigger informer stays with the Trigger of its event. -/
theorem Moves.turn (hmove : Moves B .triggers σ q x σ') (p : Process B) :
    p.turn .triggers q = p.busy := by
  cases hmove with
  | take _ _ hne | miss _ _ hne => exact absurd rfl hne
  | @aside _ q _ hq => cases q <;> first | rfl | exact hq.elim
  | set | delete | load | stop | store | discard => rfl

theorem Req.credible_env (henv : Req.env s w q x w')
    (hkeyed : ∀ key t, w.triggers key = some t → t.key = key) : q.Credible x := by
  cases q with
  | getTrigger key => exact fun t ht => hkeyed key t (henv.1.symm.trans ht)
  | storeSubscription key =>
    obtain ⟨rfl, -⟩ := henv
    rfl
  | _ => trivial

end Operations

/-! ## The invariant -/

section Invariant

variable {B : Broker} {p p' : Process B} {key : NamespacedName}

/-- The goroutine is at work on this Trigger, what it has found still holds, and it does not want
a Trigger that has gone. -/
structure Process.Does (p : Process B) (informer : Informer) (work : Work B) : Prop where
  busy : p.busy informer = some work.key
  found : work.Found p.watcher
  wanted : p.gone work.key = true → work.wanted = false

/-- It is so, or the Trigger informer, which is at work on the Trigger, has yet to see to it. -/
def Process.Due (p : Process B) (key : NamespacedName) (done : Prop)
    (act : Req B.Remembered B.Config → Prop) : Prop :=
  done ∨ (p.busy .triggers = some key ∧ (p.left .triggers).Must act)

/-- What runs is stored; and what is gone is out of the maps, or will be before its goroutine is
idle again. -/
structure Process.Sound (p : Process B) (σ : Informer → Option (Work B)) : Prop where
  apart : p.Apart
  coherent : p.watcher.Coherent
  keyed : ∀ key t, p.watcher.triggers key = some t → t.key = key
  follows : ∀ i, Follows (Moves B i) Req.Credible (fun _ _ => True) (σ i) (p.left i)
  does : ∀ i, ¬ p.Idle i → ∀ work ∈ σ i, p.Does i work
  unset : ∀ key, p.gone key = true →
    p.Due key (∀ t, p.watcher.triggers key = some t → B.watch t = none) (Unsets B key)
  stopped : ∀ key, p.gone key = true →
    p.Due key (p.watcher.subscriptions key = none) (· = .stopSubscription key)

theorem Process.sound_start (B : Broker) : (Process.start B).Sound fun _ => none where
  apart _ _ _ h := absurd rfl h.2
  coherent := Watcher.coherent_start B
  keyed _ _ h := by cases h
  follows _ := trivial
  does _ h := absurd rfl h
  unset _ h := by cases h
  stopped _ h := by cases h

theorem Process.Due.idle {done : Prop} {act : Req B.Remembered B.Config → Prop}
    (h : p.Due key done act) (hidle : p.Idle .triggers) : done := by
  rcases h with hdone | ⟨-, hmust⟩
  · exact hdone
  · rw [hidle] at hmust
    exact hmust.elim

theorem Process.Due.worksOn {done : Prop} {act : Req B.Remembered B.Config → Prop}
    (h : p.Due key done act) : done ∨ p.WorksOn .triggers key := by
  rcases h with hdone | ⟨hbusy, hmust⟩
  · exact .inl hdone
  · refine .inr ⟨hbusy, fun hidle => ?_⟩
    rw [hidle] at hmust
    exact hmust

theorem Call.not_idle (call : Call) : call.handle B ≠ .pure () := by
  cases call <;> exact nofun

variable {σ : Informer → Option (Work B)}

theorem Process.begin_left (p : Process B) (call : Call) :
    (p.begin call).left call.informer = call.handle B :=
  update_self ..

theorem Process.due_begin {call : Call} {done : Prop} {act : Req B.Remembered B.Config → Prop}
    (hidle : p.Idle call.informer)
    (hmust : call.event B = some (key, true) → (call.handle B).Must act)
    (h : p.gone key = true → p.Due key done act) (hgone : (p.begin call).gone key = true) :
    (p.begin call).Due key done act := by
  cases hevent : call.event B with
  | none =>
    have hi : Informer.triggers ≠ call.informer := by
      intro heq
      cases call <;> simp [Call.event, Call.informer] at hevent heq
    have hgone' : p.gone key = true := by simpa [Process.begin, hevent] using hgone
    have hbusy : (p.begin call).busy .triggers = p.busy .triggers := update_of_ne hi ..
    have hleft : (p.begin call).left .triggers = p.left .triggers := update_of_ne hi ..
    rw [Process.Due, hbusy, hleft]
    exact h hgone'
  | some event =>
    obtain ⟨key', ends⟩ := event
    have hi : call.informer = .triggers := by
      cases call <;> first | rfl | cases hevent
    by_cases heq : key = key'
    · subst heq
      have hends : ends = true := by simpa [Process.begin, hevent] using hgone
      subst hends
      refine .inr ⟨by simp [Process.begin, hevent, hi], ?_⟩
      rw [← hi, Process.begin_left]
      exact hmust hevent
    · have hgone' : p.gone key = true := by simpa [Process.begin, hevent, heq] using hgone
      exact .inl ((h hgone').idle (hi ▸ hidle))

theorem Process.Sound.begin (h : p.Sound σ) (horderly : B.Orderly) {call : Call}
    (hidle : p.Idle call.informer) (hapart : (p.begin call).Apart) :
    (p.begin call).Sound (update σ call.informer call.work) := by
  have hleft (i : Informer) (hi : i ≠ call.informer) : (p.begin call).left i = p.left i :=
    update_of_ne hi ..
  have hbusy (i : Informer) (hi : i ≠ call.informer) : (p.begin call).busy i = p.busy i :=
    update_of_ne hi ..
  have hown : ¬ (p.begin call).Idle call.informer := by
    rw [Process.Idle, Process.begin_left]
    exact call.not_idle
  refine ⟨hapart, h.coherent, h.keyed, ?_, ?_, ?_, ?_⟩
  · intro i
    by_cases hi : i = call.informer
    · subst hi
      rw [Process.begin_left, update_self]
      exact follows_handle horderly call
    · rw [update_of_ne hi, hleft i hi]
      exact h.follows i
  · intro i hbusyi work hwork
    by_cases hi : i = call.informer
    · subst hi
      rw [update_self] at hwork
      obtain ⟨⟨key, ends⟩, hevent, rfl⟩ := Option.map_eq_some_iff.mp hwork
      refine ⟨?_, nofun, ?_⟩
      · simp [Process.begin, hevent]
      · simp [Process.begin, hevent]
    · rw [update_of_ne hi] at hwork
      have hdoes := h.does i (by rwa [Process.Idle, ← hleft i hi]) work hwork
      refine ⟨(hbusy i hi).trans hdoes.busy, hdoes.found, fun hgone => hdoes.wanted ?_⟩
      cases hevent : call.event B with
      | none => simpa [Process.begin, hevent] using hgone
      | some event =>
        obtain ⟨key, ends⟩ := event
        -- another goroutine's Trigger is not that of the event
        have hne : work.key ≠ key := by
          rintro rfl
          exact hi (hapart i call.informer work.key ⟨(hbusy i hi).trans hdoes.busy, hbusyi⟩
            ⟨by simp [Process.begin, hevent], hown⟩)
        simpa [Process.begin, hevent, hne] using hgone
  · exact fun key => Process.due_begin hidle call.must_unset (h.unset key)
  · exact fun key => Process.due_begin hidle call.must_stop (h.stopped key)

variable {informer : Informer} {q : Req B.Remembered B.Config} {x : q.Reply}
  {k : q.Reply → WatchProgram B Unit} {w' : Watcher B} {s : Sources} {σ' : Option (Work B)}

def Process.after (p : Process B) (informer : Informer) (q : Req B.Remembered B.Config)
    (rest : WatchProgram B Unit) (w' : Watcher B) : Process B :=
  { p with watcher := w', left := update p.left informer rest, busy := p.turn informer q }

theorem Process.after_left_self (rest : WatchProgram B Unit) :
    (p.after informer q rest w').left informer = rest :=
  update_self ..

theorem Process.after_left {i : Informer} (hi : i ≠ informer) (rest : WatchProgram B Unit) :
    (p.after informer q rest w').left i = p.left i :=
  update_of_ne hi ..

theorem Process.after_busy {i : Informer} (hi : i ≠ informer) (rest : WatchProgram B Unit) :
    (p.after informer q rest w').busy i = p.busy i := by
  cases q <;> first | rfl | exact update_of_ne hi ..

theorem Process.Sound.not_same (h : p.Sound σ) (hleft : p.left informer = .call q k)
    {i : Informer} (hi : i ≠ informer) {work : Work B} (hdoes : p.Does i work)
    (hbusy : ¬ p.Idle i) : ∀ own ∈ σ informer, own.key ≠ work.key := by
  intro own hown heq
  have hbusy' : ¬ p.Idle informer := by
    rw [Process.Idle, hleft]
    exact nofun
  refine hi (h.apart i informer work.key ⟨hdoes.busy, hbusy⟩ ⟨?_, hbusy'⟩)
  rw [(h.does informer hbusy' own hown).busy, heq]

/-- What the Trigger informer has to see to is done or remains to be done. -/
theorem Process.Due.operation {done done' : Prop} {act : Req B.Remembered B.Config → Prop}
    (h : p.Due key done act) (hleft : p.left informer = .call q k)
    {σ : Option (Work B)} (hmove : Moves B informer σ q x σ') (hkept : done → done')
    (hact : act q → done') :
    (p.after informer q (k x) w').Due key done' act := by
  rcases h with hdone | ⟨hbusy, hmust⟩
  · exact .inl (hkept hdone)
  · by_cases hi : informer = .triggers
    · subst hi
      rw [hleft] at hmust
      rcases hmust with hq | hmust
      · exact .inl (hact hq)
      · refine .inr ⟨(congrFun (hmove.turn p) _).trans hbusy, ?_⟩
        rw [Process.after_left_self]
        exact hmust x
    · rw [Process.Due, Process.after_busy (Ne.symm hi), Process.after_left (Ne.symm hi)]
      exact .inr ⟨hbusy, hmust⟩

theorem Process.Sound.operation (h : p.Sound σ) (hleft : p.left informer = .call q k)
    (henv : Req.env s p.watcher q x w') (hmove : Moves B informer (σ informer) q x σ')
    (hrest : Follows (Moves B informer) Req.Credible (fun _ _ => True) σ' (k x))
    (hapart : (p.after informer q (k x) w').Apart) :
    (p.after informer q (k x) w').Sound (update σ informer σ') := by
  have hbusy : ¬ p.Idle informer := by
    rw [Process.Idle, hleft]
    exact nofun
  have hown := h.does informer hbusy
  have hwanted (key : NamespacedName) (hgone : p.gone key = true) :
      ∀ work ∈ σ informer, work.key = key → work.wanted = false := by
    rintro work hwork rfl
    exact (hown work hwork).wanted hgone
  have heffect := hmove.effect henv
  refine ⟨hapart, heffect.coherent (fun work hwork => (hown work hwork).found) h.coherent,
    heffect.keyed h.keyed, ?_, ?_, ?_, ?_⟩
  · intro i
    by_cases hi : i = informer
    · subst hi
      rw [Process.after_left_self, update_self]
      exact hrest
    · rw [Process.after_left hi, update_of_ne hi]
      exact h.follows i
  · intro i hbusyi work hwork
    by_cases hi : i = informer
    · subst hi
      rw [update_self] at hwork
      have hfound := heffect.found (fun work hwork => (hown work hwork).found) work hwork
      obtain ⟨before, hbefore, hkey, hsame, hturn⟩ | ⟨t, hi, hkey, hsame, hturn, hread⟩ :=
        hmove.continues hwork p
      · have hdoes := hown before hbefore
        refine ⟨(congrFun hturn _).trans (hkey ▸ hdoes.busy), hfound, ?_⟩
        rw [hkey, hsame]
        exact hdoes.wanted
      · have hturned : (p.after i q (k x) w').busy i = some t.key :=
          (congrFun hturn i).trans (update_self ..)
        refine ⟨hkey ▸ hturned, hfound, ?_⟩
        rw [hkey, hsame]
        intro hgone
        -- the Trigger informer would be at work on the same Trigger
        rcases (h.unset t.key hgone).worksOn with hunset | ⟨hbusy', hidle'⟩
        · rw [hunset t (hread henv)]
          rfl
        · refine absurd (hapart i .triggers t.key ⟨hturned, hbusyi⟩ ⟨?_, ?_⟩) hi
          · rw [Process.after_busy (Ne.symm hi)]
            exact hbusy'
          · rw [Process.Idle, Process.after_left (Ne.symm hi)]
            exact hidle'
    · rw [update_of_ne hi] at hwork
      rw [Process.Idle, Process.after_left hi] at hbusyi
      have hdoes := h.does i hbusyi work hwork
      refine ⟨(Process.after_busy hi _).trans hdoes.busy, ?_, hdoes.wanted⟩
      intro y hy
      have hframe := heffect.frame (h.not_same hleft hi hdoes hbusyi)
      exact hframe.2.trans (hdoes.found y hy)
  · intro key hgone
    refine (h.unset key hgone).operation hleft hmove
      (heffect.unwanted (hwanted key hgone)).1 ?_
    rintro (rfl | ⟨t, rfl, hwatch⟩)
    · obtain rfl := henv
      intro t ht
      cases (update_self ..).symm.trans ht
    · obtain rfl := henv
      intro t' ht'
      cases (update_self ..).symm.trans ht'
      exact hwatch
  · intro key hgone
    refine (h.stopped key hgone).operation hleft hmove
      (heffect.unwanted (hwanted key hgone)).2 ?_
    rintro rfl
    obtain rfl := henv
    exact (congrFun (Watcher.subscriptions_stop key) key).trans (update_self ..)

theorem Process.Sound.step (h : p.Sound σ) (horderly : B.Orderly) {label : Process.Label}
    (hstep : Process.Step p label p') (hapart : p'.Apart) : ∃ σ', p'.Sound σ' := by
  cases hstep with
  | call call hidle => exact ⟨_, h.begin horderly hidle hapart⟩
  | @operation informer q k x w' s hleft henv =>
    have hfollows := h.follows informer
    rw [hleft] at hfollows
    obtain ⟨σ', hmove, hrest⟩ := hfollows x (Req.credible_env henv h.keyed)
    exact ⟨_, h.operation hleft henv hmove hrest hapart⟩

end Invariant

/-- In every interleaving of the three informers in which no two goroutines are at work on one
Trigger, every subscription that runs is the one stored under its key; and once the goroutines are
idle, nothing runs for a Trigger whose last event was a deletion or a disabling. -/
theorem live_subscriptions_stored (lib : WatcherLib) (type : BrokerType)
    {labels : List Process.Label} {p : Process (type.broker lib)}
    (hrun : Run (fun p label p' => Process.Step p label p' ∧ p'.Apart)
      (Process.start (type.broker lib)) labels p) :
    (∀ sub ∈ p.watcher.live, p.watcher.subscriptions sub.key = some sub) ∧
      ((∀ informer, p.Idle informer) →
        ∀ key, p.gone key = true → ∀ sub ∈ p.watcher.live, sub.key ≠ key) := by
  obtain ⟨σ, hsound⟩ : ∃ σ, p.Sound σ := by
    refine hrun.always (fun p => ∃ σ, p.Sound σ) ⟨_, Process.sound_start _⟩ ?_
    rintro _ _ _ ⟨σ, h⟩ ⟨hstep, hapart⟩
    exact h.step (type.orderly lib) hstep hapart
  refine ⟨hsound.coherent.stored, ?_⟩
  rintro hidle key hgone sub hsub rfl
  have hnone := (hsound.stopped sub.key hgone).idle (hidle .triggers)
  rw [hsound.coherent.stored sub hsub] at hnone
  cases hnone

/-! ## A Trigger and its Integration arrive together -/

section Schedules

variable {B : Broker}

def Process.advance (s : Sources) (p : Process B) : Process.Label → Option (Process B)
  | .call call =>
    match p.left call.informer with
    | .pure () => some (p.begin call)
    | .call _ _ => none
  | .operation informer =>
    match p.left informer with
    | .pure () => none
    | .call q k =>
      some { p with
        watcher := (Req.answer s p.watcher q).2
        left := update p.left informer (k (Req.answer s p.watcher q).1)
        busy := p.turn informer q }

theorem Process.advance_step {s : Sources} {p p' : Process B} {label : Process.Label}
    (h : p.advance s label = some p') : Process.Step p label p' := by
  cases label with
  | call call =>
    simp only [Process.advance] at h
    split at h <;> cases h
    next hleft => exact .call call hleft
  | operation informer =>
    simp only [Process.advance] at h
    split at h <;> cases h
    next hleft => exact .operation s hleft (Req.answer_env s p.watcher _)

def Process.apart (p : Process B) : Bool :=
  let informers : List Informer := [.triggers, .secrets, .integrations]
  informers.all fun i => informers.all fun j =>
    decide (i = j) || decide (p.busy i ≠ p.busy j) || (p.left i).ended || (p.left j).ended

theorem Process.apart_sound {p : Process B} (h : p.apart = true) : p.Apart := by
  have hmem (i : Informer) : i ∈ [Informer.triggers, .secrets, .integrations] := by
    cases i <;> decide
  rintro i j key ⟨hi, hbusyi⟩ ⟨hj, hbusyj⟩
  have hij := List.all_eq_true.mp (List.all_eq_true.mp h i (hmem i)) j (hmem j)
  rw [Process.Idle, ← Program.ended_iff] at hbusyi hbusyj
  simpa [hi, hj, hbusyi, hbusyj] using hij

def Process.advanceApart (s : Sources) (p : Process B) (label : Process.Label) :
    Option (Process B) :=
  (p.advance s label).filter Process.apart

theorem Process.advanceApart_step {s : Sources} {p p' : Process B} {label : Process.Label}
    (h : p.advanceApart s label = some p') : Process.Step p label p' ∧ p'.Apart := by
  obtain ⟨hadvance, hapart⟩ := Option.filter_eq_some_iff.mp h
  exact ⟨Process.advance_step hadvance, Process.apart_sound hapart⟩

def ordersSources : Sources :=
  (Cluster.empty.apply (.setIntegration ordersIntegration)).sources

def returnsTrigger : Trigger := { ordersTrigger "returns" "intake" with
  metadata := { name := ⟨"default", "returns"⟩ } }

/-- A Trigger is added. While a second one is, the Integration changes, which replays the first;
that one is then deleted. -/
def addedAndDeleted : List Process.Label :=
  .call (.upsertTrigger (ordersTrigger "orders" "intake")) ::
    List.replicate 8 (.operation .triggers) ++
  .call (.changeIntegration ⟨"default", "broker"⟩) ::
    List.replicate 3 (.operation .integrations) ++
  .call (.upsertTrigger returnsTrigger) ::
    List.replicate 8 (.operation .triggers) ++
  List.replicate 5 (.operation .integrations) ++
  .call (.deleteTrigger (ordersTrigger "orders" "intake")) ::
    List.replicate 5 (.operation .triggers)

/-- Of the two subscriptions that were started the one of the deleted Trigger is stopped. -/
theorem live_subscriptions_stored_orders :
    ∃ p : Process (kafkaBroker default),
      addedAndDeleted.foldlM (Process.advanceApart ordersSources) (Process.start _) = some p ∧
      p.watcher.next = 2 ∧ p.watcher.live.length = 1 ∧
      (∀ sub ∈ p.watcher.live, p.watcher.subscriptions sub.key = some sub) ∧
      ∀ sub ∈ p.watcher.live, sub.key ≠ ordersKey := by
  have hend : ((addedAndDeleted.foldlM (Process.advanceApart ordersSources)
      (Process.start (kafkaBroker default))).map fun p =>
        (p.watcher.next, p.watcher.live.length, p.gone ordersKey, (p.left .triggers).ended,
          (p.left .secrets).ended, (p.left .integrations).ended)) =
      some (2, 1, true, true, true, true) := by
    decide +kernel
  obtain ⟨p, hp, hfacts⟩ := Option.map_eq_some_iff.mp hend
  simp only [Prod.mk.injEq] at hfacts
  obtain ⟨hnext, hlive, hgone, htriggers, hsecrets, hintegrations⟩ := hfacts
  have hidle : ∀ informer, p.Idle informer := by
    intro informer
    cases informer
    · exact Program.ended_iff.mp htriggers
    · exact Program.ended_iff.mp hsecrets
    · exact Program.ended_iff.mp hintegrations
  have hrun : Run (fun p label p' => Process.Step p label p' ∧ p'.Apart) _ _ p :=
    Run.foldlM (fun _ => Process.advanceApart_step) hp
  obtain ⟨hstored, hdeleted⟩ := live_subscriptions_stored default .kafka hrun
  exact ⟨p, hp, hnext, hlive, hstored, hdeleted hidle ordersKey hgone⟩

/-- The Trigger informer has seen that nothing is stored when its Integration arrives. -/
def addedTogether : List Process.Label :=
  .call (.upsertTrigger (ordersTrigger "orders" "intake")) ::
    List.replicate 6 (.operation .triggers) ++
  .call (.changeIntegration ⟨"default", "broker"⟩) ::
    List.replicate 10 (.operation .integrations) ++
  List.replicate 2 (.operation .triggers)

/-- Both goroutines store a subscription of the one Trigger, and the first runs on. -/
theorem two_subscriptions_live :
    ∃ (labels : List Process.Label) (p : Process (kafkaBroker default)),
      Run Process.Step (Process.start _) labels p ∧ (∀ informer, p.Idle informer) ∧
      ∃ sub ∈ p.watcher.live, sub.key = ordersKey ∧ p.watcher.subscriptions sub.key ≠ some sub := by
  have hend : ((addedTogether.foldlM (Process.advance ordersSources)
      (Process.start (kafkaBroker default))).map fun p =>
        (p.watcher.live.any fun sub =>
            sub.key == ordersKey && p.watcher.subscriptions sub.key != some sub,
          (p.left .triggers).ended, (p.left .secrets).ended, (p.left .integrations).ended)) =
      some (true, true, true, true) := by
    decide +kernel
  obtain ⟨p, hp, hfacts⟩ := Option.map_eq_some_iff.mp hend
  simp only [Prod.mk.injEq, List.any_eq_true, Bool.and_eq_true, beq_iff_eq, bne_iff_ne] at hfacts
  obtain ⟨⟨sub, hsub, hkey, hlost⟩, htriggers, hsecrets, hintegrations⟩ := hfacts
  refine ⟨addedTogether, p, Run.foldlM (fun _ => Process.advance_step) hp, ?_, sub, hsub, hkey,
    hlost⟩
  intro informer
  cases informer
  · exact Program.ended_iff.mp htriggers
  · exact Program.ended_iff.mp hsecrets
  · exact Program.ended_iff.mp hintegrations

end Schedules

end KubeZap.Gateway
