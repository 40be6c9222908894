import KubeZap.Foundation.Keyed
import KubeZap.Foundation.Run
import KubeZap.Plugin.SqsSubscriber

/-! # Subscriptions and their poll loops

`Subscriber.Reconcile` and `Remove` of `plugin/awsmessaging/subscriber.go`, with the loops they
start and cancel, and the sessions of `health.go`. The informer hands over one event at a time; an
event is a list of operations, between any two of which the loops go on. Only the handler of the
events writes the map of the subscriptions and cancels loops; so what it will have done at the end
of an event does not depend on the loops.
-/

namespace KubeZap.AwsMessaging

open Foundation Function

/-! ## Sessions -/

/-- A `sessionState` under its key, and the subscription that has written it. -/
structure Session where
  key : NamespacedName
  ok : Bool
  msg : String
  writer : Nat
deriving DecidableEq

structure Health where
  started : Bool := false
  sessions : List Session := []

namespace Health

def SetStarted (h : Health) : Health := { h with started := true }

def SetSession (h : Health) (key : NamespacedName) (ok : Bool) (msg : String) (writer : Nat) :
    Health :=
  { h with sessions := Keyed.upsert Session.key h.sessions ⟨key, ok, msg, writer⟩ }

def Forget (h : Health) (key : NamespacedName) : Health :=
  { h with sessions := h.sessions.filter (·.key ≠ key) }

/-- The error, if any; `publisherCheck` is what the probe of the SNS client finds, none also where
there is no publisher. -/
def Check (h : Health) (publisherCheck : Option String) : Option String :=
  if !h.started then some "initial Trigger sync not complete"
  else
    let bad := (h.sessions.filter (!·.ok)).map fun s => s.key.name ++ ": " ++ s.msg
    if bad.length > 0 then
      some ("no SQS session for: " ++ "; ".intercalate (bad.mergeSort fun a b => decide (a ≤ b)))
    else publisherCheck.map ("SNS publisher unavailable: " ++ ·)

def ServeHTTP (h : Health) (publisherCheck : Option String) : Nat × String :=
  match h.Check publisherCheck with
  | some err => (503, err ++ "\n")
  | none => (200, "ok")

end Health

/-! ## Queue URLs -/

structure Url where
  scheme : String
  host : String
  path : String

structure UrlLib where
  /-- `fmt.Sprintf("%q", s)` -/
  quote : String → String
  /-- `url.Parse` -/
  parse : String → Except String Url
deriving Inhabited

/-- The error, if any. -/
@[irreducible] def ParseQueueURL (urls : UrlLib) (raw : String) : Option String :=
  let field := "plugin.config[" ++ urls.quote "queueUrl" ++ "]"
  if trimSpace raw = "" then some (field ++ " is missing or empty")
  else
    match urls.parse raw with
    | .error err => some (field ++ " is not a valid URL: " ++ err)
    | .ok u =>
      if (u.scheme ≠ "http" ∧ u.scheme ≠ "https") ∨ u.host = "" then
        some (field ++ " " ++ urls.quote raw ++ " must be an http(s) URL")
      -- `strings.Trim(u.Path, "/") == ""`
      else if u.path.toList.all (· = '/') then
        some (field ++ " " ++ urls.quote raw ++ " has no queue path")
      else none

/-! ## Events -/

@[simp] theorem snapshot_key (t : Trigger) : (snapshot t).key = t.key := rfl

def SubscriptionSnapshot.fingerprint (snap : SubscriptionSnapshot) : String :=
  snap.queueURL ++ "\x00" ++ snap.flowRefName

/-- An entry of `s.subs`; its `cancel` does nothing where no loop was started. -/
structure Subscription where
  id : Nat
  polls : Bool
  fingerprint : String

abbrev Subs := NamespacedName → Option Subscription

inductive Op
  | cancel (sub : Subscription)
  | delete (key : NamespacedName)
  | store (key : NamespacedName) (sub : Subscription)
  | setSession (key : NamespacedName) (ok : Bool) (msg : String) (writer : Nat)
  | forget (key : NamespacedName)
  /-- the goroutine of a subscription is started -/
  | go (id : Nat) (snap : SubscriptionSnapshot)

def Remove (subs : Subs) (key : NamespacedName) : List Op :=
  match subs key with
  | some sub => [.delete key, .cancel sub, .forget key]
  | none => [.delete key, .forget key]

/-- The new subscription `id` of a Trigger that has none. -/
def subscribe (urls : UrlLib) (id : Nat) (snap : SubscriptionSnapshot) : List Op :=
  match ParseQueueURL urls snap.queueURL with
  | some err =>
    [.setSession snap.key false err id, .store snap.key ⟨id, false, snap.fingerprint⟩]
  | none =>
    [.store snap.key ⟨id, true, snap.fingerprint⟩,
      .setSession snap.key false "session not yet established" id, .go id snap]

def Subscriber.Reconcile (urls : UrlLib) (s : Subscriber) (subs : Subs) (id : Nat) (t : Trigger) :
    List Op :=
  if !s.Selects t then Remove subs t.key
  else
    let snap := snapshot t
    match subs t.key with
    | some cur =>
      if cur.fingerprint = snap.fingerprint then []
      else .cancel cur :: .delete t.key :: subscribe urls id snap
    | none => subscribe urls id snap

/-- The events of the informer; the last state of a deleted Trigger may come in a
`DeletedFinalStateUnknown`. -/
inductive TriggerEvent
  | add (t : Trigger)
  | update (t : Trigger)
  | delete (t : Trigger)

/-! ## The handler and the loops -/

structure Control where
  subs : Subs := fun _ => none
  /-- the loops that were started, under the numbers of their subscriptions -/
  started : Nat → Option SubscriptionSnapshot := fun _ => none
  cancelled : Nat → Bool := fun _ => false
  next : Nat := 0
  triggers : NamespacedName → Option Trigger := fun _ => none

def Op.control : Op → Control → Control
  | .cancel sub, c =>
    if sub.polls then { c with cancelled := update c.cancelled sub.id true } else c
  | .delete key, c => { c with subs := update c.subs key none }
  | .store key sub, c => { c with subs := update c.subs key (some sub) }
  | .go id snap, c => { c with started := update c.started id (some snap) }
  | .setSession .., c | .forget _, c => c

def Op.Starts : Op → Prop
  | .go _ _ => True
  | _ => False

def Op.health : Op → Health → Health
  | .setSession key ok msg writer, h => h.SetSession key ok msg writer
  | .forget key, h => h.Forget key
  | .cancel _, h | .delete _, h | .store _ _, h | .go _ _, h => h

/-- What an event shows, and what is done about it. -/
def Subscriber.EventHandler (urls : UrlLib) (s : Subscriber) (c : Control) :
    TriggerEvent → Control × List Op
  | .add t | .update t =>
    ({ c with triggers := update c.triggers t.key (some t), next := c.next + 1 },
      s.Reconcile urls c.subs c.next t)
  | .delete t =>
    ({ c with triggers := update c.triggers t.key none }, Remove c.subs t.key)

structure State where
  control : Control := {}
  pending : List Op := []
  loops : Nat → Option (SqsProgram Unit) := fun _ => none
  health : Health := {}
  ended : Bool := false

/-- `ctx.Err() != nil` for the loop `id` -/
def State.ctxErr (st : State) (id : Nat) : Bool := st.control.cancelled id || st.ended

/-- The answers that the loop `id` may get; what comes from the queues and the cluster is open. -/
def State.answers (st : State) (id : Nat) : (q : Req) → q.Reply → Bool
  | .ctxErr, x => x == st.ctxErr id
  | .sleep _, slept => slept || st.ctxErr id
  | _, _ => true

/-- What the calls of the loop `id` leave of the sessions. -/
def Req.health (id : Nat) : Req → Health → Health
  | .setSession key ok msg, h => h.SetSession key ok msg id
  | _, h => h

inductive Move
  | event (e : TriggerEvent)
  /-- the next operation of the handler; a loop that is started by it goes at most `rounds`
  rounds -/
  | handle (rounds : Nat)
  /-- the loop `id` makes its next call, with this answer -/
  | poll (id : Nat) (reply : (q : Req) → q.Reply)
  | setStarted
  | shutdown

def State.move (lib : BrokerLib) (urls : UrlLib) (s : Subscriber) (st : State) :
    Move → Option State
  | .event e =>
    match st.pending with
    | _ :: _ => none
    | [] =>
      let (control, pending) := s.EventHandler urls st.control e
      some { st with control := control, pending := pending }
  | .handle rounds =>
    match st.pending with
    | [] => none
    | op :: rest =>
      some { st with
        control := op.control st.control
        pending := rest
        health := op.health st.health
        loops := match op with
          | .go id snap =>
            update st.loops id
              (some (poll lib s.opts snap rounds false s.opts.retryBase))
          | _ => st.loops }
  | .poll id reply =>
    match st.loops id with
    | some (.call q k) =>
      if st.answers id q (reply q) then
        some { st with
          loops := update st.loops id (some (k (reply q)))
          health := q.health id st.health }
      else none
    | _ => none
  | .setStarted => some { st with health := st.health.SetStarted }
  | .shutdown => some { st with ended := true }

abbrev State.Step (lib : BrokerLib) (urls : UrlLib) (s : Subscriber) (st : State) (m : Move)
    (st' : State) : Prop :=
  st.move lib urls s m = some st'

theorem State.step_cases {lib : BrokerLib} {urls : UrlLib} {s : Subscriber} {st st' : State}
    {m : Move} (h : st.Step lib urls s m st') :
    (∃ e, m = .event e ∧ st.pending = [] ∧
      (st'.control, st'.pending) = s.EventHandler urls st.control e ∧ st'.health = st.health) ∨
    (∃ rounds op rest, m = .handle rounds ∧ st.pending = op :: rest ∧
      st'.control = op.control st.control ∧ st'.pending = rest ∧
      st'.health = op.health st.health) ∨
    (∃ id reply q k, m = .poll id reply ∧ st.loops id = some (.call q k) ∧
      st'.control = st.control ∧ st'.pending = st.pending ∧
      st'.health = q.health id st.health) ∨
    (st'.control = st.control ∧ st'.pending = st.pending ∧
      st'.health.sessions = st.health.sessions) := by
  cases m with
  | event e =>
    cases hpending : st.pending with
    | cons => simp [State.Step, State.move, hpending] at h
    | nil =>
      simp only [State.Step, State.move, hpending, Option.some.injEq] at h
      subst h
      exact .inl ⟨e, rfl, rfl, rfl, rfl⟩
  | handle rounds =>
    cases hpending : st.pending with
    | nil => simp [State.Step, State.move, hpending] at h
    | cons op rest =>
      simp only [State.Step, State.move, hpending, Option.some.injEq] at h
      subst h
      exact .inr (.inl ⟨rounds, op, rest, rfl, rfl, rfl, rfl, rfl⟩)
  | poll id reply =>
    simp only [State.Step, State.move] at h
    split at h
    · rename_i q k hloop
      split at h
      · cases h
        exact .inr (.inr (.inl ⟨id, reply, q, k, rfl, hloop, rfl, rfl, rfl⟩))
      · cases h
    · cases h
  | setStarted | shutdown =>
    cases h
    exact .inr (.inr (.inr ⟨rfl, rfl, rfl⟩))

/-! ## What holds along an event -/

namespace Control

/-- `P` holds now and after each of the operations. -/
def Along (P : Control → List Op → Prop) : Control → List Op → Prop
  | c, [] => P c []
  | c, op :: rest => P c (op :: rest) ∧ Along P (op.control c) rest

theorem Along.head {P : Control → List Op → Prop} {c : Control} {ops : List Op}
    (h : Along P c ops) : P c ops := by
  cases ops with
  | nil => exact h
  | cons op rest => exact h.1

end Control

theorem State.Step.along {lib : BrokerLib} {urls : UrlLib} {s : Subscriber} {st st' : State}
    {m : Move} {P : Control → List Op → Prop} (hstep : st.Step lib urls s m st')
    (h : Control.Along P st.control st.pending) (hevent : ∀ e, m = .event e → P st.control [] →
      Control.Along P (s.EventHandler urls st.control e).1
        (s.EventHandler urls st.control e).2) :
    Control.Along P st'.control st'.pending := by
  obtain ⟨e, rfl, hpending, hnext, -⟩ | ⟨rounds, op, rest, rfl, hpending, hcontrol, hrest, -⟩ |
    ⟨id, reply, q, k, rfl, -, hcontrol, hrest, -⟩ | ⟨hcontrol, hrest, -⟩ := State.step_cases hstep
  · rw [hpending] at h
    have hgoal := hevent e rfl h
    rwa [← hnext] at hgoal
  · rw [hpending] at h
    rw [hcontrol, hrest]
    exact h.2
  · rwa [hcontrol, hrest]
  · rwa [hcontrol, hrest]

/-! ## One loop for a Trigger -/

namespace Control

variable {s : Subscriber} {c c' : Control} {key : NamespacedName} {id : Nat}
  {snap : SubscriptionSnapshot}

def Polling (c : Control) (id : Nat) (snap : SubscriptionSnapshot) : Prop :=
  c.started id = some snap ∧ c.cancelled id = false

def AtMostOne (c : Control) : Prop :=
  ∀ id id' snap snap', c.Polling id snap → c.Polling id' snap' → snap.key = snap'.key → id = id'

/-- The loop belongs to the subscription of its Trigger, and has the Trigger's queue and Flow. -/
def Current (c : Control) (id : Nat) (snap : SubscriptionSnapshot) : Prop :=
  (∃ sub, c.subs snap.key = some sub ∧ sub.id = id ∧ sub.polls ∧
    sub.fingerprint = snap.fingerprint) ∧
  ∃ t, c.triggers snap.key = some t ∧ snap = snapshot t

structure Settled (s : Subscriber) (c : Control) : Prop where
  keys : ∀ key, (c.subs key).isSome ↔ ∃ t, c.triggers key = some t ∧ s.Selects t
  current : ∀ id snap, c.Polling id snap → c.Current id snap

def after (c : Control) (ops : List Op) : Control := ops.foldl (fun c op => op.control c) c

@[simp] theorem after_nil : c.after [] = c := rfl

@[simp] theorem after_cons {op : Op} {ops : List Op} :
    c.after (op :: ops) = (op.control c).after ops := rfl

section Fields

variable {sub : Subscription}

@[simp] theorem control_cancel : (Op.cancel sub).control c =
    { c with cancelled := fun id => c.cancelled id || sub.polls && decide (id = sub.id) } := by
  simp only [Op.control]
  cases sub.polls with
  | false => simp
  | true =>
    rw [if_pos rfl]
    congr
    funext id
    by_cases hid : id = sub.id
    · subst hid
      simp
    · simp [hid]

@[simp] theorem control_delete : (Op.delete key).control c =
    { c with subs := update c.subs key none } := rfl

@[simp] theorem control_store : (Op.store key sub).control c =
    { c with subs := update c.subs key (some sub) } := rfl

@[simp] theorem control_go : (Op.go id snap).control c =
    { c with started := update c.started id (some snap) } := rfl

@[simp] theorem control_setSession {ok : Bool} {msg : String} :
    (Op.setSession key ok msg id).control c = c := rfl

@[simp] theorem control_forget : (Op.forget key).control c = c := rfl

end Fields

theorem Settled.atMostOne (h : c.Settled s) : c.AtMostOne := by
  intro id id' snap snap' hpolling hpolling' hkey
  obtain ⟨⟨sub, hsub, hid, -⟩, -⟩ := h.current id snap hpolling
  obtain ⟨⟨sub', hsub', hid', -⟩, -⟩ := h.current id' snap' hpolling'
  rw [hkey, hsub'] at hsub
  cases hsub
  exact hid.symm.trans hid'

theorem AtMostOne.mono (h : c.AtMostOne) (hle : ∀ id snap, c'.Polling id snap → c.Polling id snap) :
    c'.AtMostOne := by
  intro id id' snap snap' hpolling hpolling'
  exact h id id' snap snap' (hle _ _ hpolling) (hle _ _ hpolling')

theorem Polling.before {op : Op} (hop : ¬op.Starts) (h : (op.control c).Polling id snap) :
    c.Polling id snap := by
  cases op with
  | cancel sub =>
    rw [control_cancel] at h
    exact ⟨h.1, (Bool.or_eq_false_iff.mp h.2).1⟩
  | go id' snap' => exact absurd trivial hop
  | delete | store | setSession | forget => exact h

/-- There is one loop at most along the operations, and nothing left to do at the end. -/
def Watched (s : Subscriber) (c : Control) (ops : List Op) : Prop :=
  c.AtMostOne ∧ (ops = [] → c.Settled s)

theorem along_watched {ops : List Op} (hops : ∀ op ∈ ops.dropLast, ¬op.Starts)
    (hone : c.AtMostOne) (hend : (c.after ops).Settled s) : Along (Watched s) c ops := by
  induction ops generalizing c with
  | nil => exact ⟨hone, fun _ => hend⟩
  | cons op rest ih =>
    refine ⟨⟨hone, nofun⟩, ?_⟩
    cases rest with
    | nil => exact ⟨hend.atMostOne, fun _ => hend⟩
    | cons op' rest =>
      rw [List.dropLast_cons_cons] at hops
      obtain ⟨hop, hops⟩ := List.forall_mem_cons.mp hops
      exact ih hops (hone.mono fun _ _ => Polling.before hop) hend

theorem Settled.change (key : NamespacedName) (h : c.Settled s)
    (hsubs : ∀ k ≠ key, c'.subs k = c.subs k) (htriggers : ∀ k ≠ key, c'.triggers k = c.triggers k)
    (hkey : (c'.subs key).isSome ↔ ∃ t, c'.triggers key = some t ∧ s.Selects t)
    (hpolling : ∀ id snap, c'.Polling id snap →
      (c.Polling id snap ∧ snap.key ≠ key) ∨ c'.Current id snap) : c'.Settled s where
  keys k := by
    by_cases hk : k = key
    · subst hk
      exact hkey
    · rw [hsubs k hk, htriggers k hk]
      exact h.keys k
  current id snap hnew := by
    rcases hpolling id snap hnew with ⟨hold, hne⟩ | hcurrent
    · obtain ⟨hsub, ht⟩ := h.current id snap hold
      rw [← hsubs _ hne] at hsub
      rw [← htriggers _ hne] at ht
      exact ⟨hsub, ht⟩
    · exact hcurrent

theorem Settled.cancelled {sub : Subscription} (h : c.Settled s) (hsub : c.subs key = some sub)
    (hpolling : ((Op.cancel sub).control c).Polling id snap) :
    c.Polling id snap ∧ snap.key ≠ key := by
  have hquiet : ¬(Op.cancel sub).Starts := False.elim
  have hold : c.Polling id snap := hpolling.before hquiet
  refine ⟨hold, ?_⟩
  rintro rfl
  obtain ⟨⟨sub', hsub', hid, hpolls, -⟩, -⟩ := h.current id snap hold
  rw [hsub] at hsub'
  cases hsub'
  rw [control_cancel] at hpolling
  simp [Polling, hpolls, hid] at hpolling

theorem Settled.unsubscribed (h : c.Settled s) (hsub : c.subs key = none)
    (hpolling : c.Polling id snap) : snap.key ≠ key := by
  rintro rfl
  obtain ⟨⟨sub, hsome, -⟩, -⟩ := h.current id snap hpolling
  rw [hsub] at hsome
  cases hsome

section Events

variable {urls : UrlLib} {t : Trigger}
  {triggers : NamespacedName → Option Trigger} {next : Nat}

theorem Settled.remove (h : c.Settled s) (htriggers : ∀ k ≠ key, triggers k = c.triggers k)
    (hkey : ¬∃ t, triggers key = some t ∧ s.Selects t) :
    Along (Watched s) { c with triggers := triggers, next := next } (Remove c.subs key) := by
  have hone : AtMostOne { c with triggers := triggers, next := next } := h.atMostOne
  unfold Remove
  cases hsub : c.subs key with
  | none =>
    refine along_watched (by simp [Op.Starts]) hone ?_
    refine h.change key (fun k hk => by simp [hk]) htriggers ?_ ?_
    · simpa using hkey
    · intro id snap hpolling
      exact .inl ⟨hpolling, h.unsubscribed hsub hpolling⟩
  | some sub =>
    refine along_watched (by simp [Op.Starts]) hone ?_
    refine h.change key (fun k hk => by simp [hk]) (by simpa using htriggers) ?_ ?_
    · simpa using hkey
    · intro id snap hpolling
      refine .inl (h.cancelled hsub ?_)
      simpa [Polling] using hpolling

theorem Settled.subscribe (h : c.Settled s) (hsubs : ∀ k ≠ t.key, c'.subs k = c.subs k)
    (htriggers : ∀ k ≠ t.key, c'.triggers k = c.triggers k) (ht : c'.triggers t.key = some t)
    (hselects : s.Selects t)
    (hpolling : ∀ id snap, c'.Polling id snap → c.Polling id snap ∧ snap.key ≠ t.key) :
    (c'.after (subscribe urls id (snapshot t))).Settled s := by
  unfold AwsMessaging.subscribe
  split
  · refine h.change t.key (fun k hk => by simp [hk, hsubs]) (by simpa using htriggers) ?_ ?_
    · simp [ht, hselects]
    · intro id' snap hpolling'
      exact .inl (hpolling id' snap (by simpa [Polling] using hpolling'))
  · refine h.change t.key (fun k hk => by simp [hk, hsubs]) (by simpa using htriggers) ?_ ?_
    · simp [ht, hselects]
    · intro id' snap hpolling'
      by_cases hid : id' = id
      · subst hid
        obtain rfl : snapshot t = snap := by simpa [Polling] using hpolling'.1
        refine .inr ⟨⟨⟨id', true, (snapshot t).fingerprint⟩, ?_, rfl, rfl, rfl⟩, t, ?_, rfl⟩
        · simp
        · simpa using ht
      · exact .inl (hpolling id' snap (by simpa [Polling, hid] using hpolling'))

/-- The fingerprint tells the queue and the Flow of the event from those of the loop that polls for
the Trigger. -/
def Distinguished (s : Subscriber) (c : Control) : TriggerEvent → Prop
  | .add t | .update t => s.Selects t → ∀ id snap, c.Polling id snap → snap.key = t.key →
      snap.fingerprint = (snapshot t).fingerprint → snap = snapshot t
  | .delete _ => True

theorem subscribe_starts_last {snap : SubscriptionSnapshot} :
    ∀ op ∈ (AwsMessaging.subscribe urls id snap).dropLast, ¬op.Starts := by
  unfold AwsMessaging.subscribe
  split <;> simp [Op.Starts]

theorem Settled.reconcile (h : c.Settled s) (hdistinct : Distinguished s c (.update t)) :
    Along (Watched s)
      { c with triggers := update c.triggers t.key (some t), next := c.next + 1 }
      (s.Reconcile urls c.subs c.next t) := by
  have htriggers : ∀ k ≠ t.key, update c.triggers t.key (some t) k = c.triggers k := by
    intro k hk
    simp [hk]
  have hone : AtMostOne { c with
      triggers := update c.triggers t.key (some t), next := c.next + 1 } := h.atMostOne
  unfold Subscriber.Reconcile
  cases hselects : s.Selects t with
  | false => exact h.remove htriggers (by simp [hselects])
  | true =>
    simp only [Bool.not_true, Bool.false_eq_true, if_false]
    cases hsub : c.subs t.key with
    | none =>
      refine along_watched subscribe_starts_last hone ?_
      refine h.subscribe (fun k _ => rfl) htriggers (update_self ..) hselects ?_
      intro id snap hpolling
      exact ⟨hpolling, h.unsubscribed hsub hpolling⟩
    | some cur =>
      by_cases hfp : cur.fingerprint = (snapshot t).fingerprint
      · -- the loop goes on, with the queue and the Flow of the event
        simp only [if_pos hfp]
        refine ⟨hone, fun _ => h.change t.key (fun k _ => rfl) htriggers ?_ ?_⟩
        · simp [hsub, hselects]
        · intro id snap hpolling
          by_cases hkey : snap.key = t.key
          · obtain ⟨hsub', -⟩ := h.current id snap hpolling
            have hfp' : snap.fingerprint = (snapshot t).fingerprint := by
              obtain ⟨sub, hsome, -, -, hsnap⟩ := hsub'
              rw [hkey, hsub] at hsome
              cases hsome
              exact hsnap.symm.trans hfp
            refine .inr ⟨hsub', t, ?_, hdistinct hselects id snap hpolling hkey hfp'⟩
            simp [hkey]
          · exact .inl ⟨hpolling, hkey⟩
      · simp only [if_neg hfp]
        refine along_watched ?_ hone ?_
        · intro op hop
          have hne : AwsMessaging.subscribe urls c.next (snapshot t) ≠ [] := by
            unfold AwsMessaging.subscribe
            split <;> simp
          rw [List.dropLast_cons_of_ne_nil (List.cons_ne_nil _ _),
            List.dropLast_cons_of_ne_nil hne, List.mem_cons, List.mem_cons] at hop
          rcases hop with rfl | rfl | hop
          · exact False.elim
          · exact False.elim
          · exact subscribe_starts_last op hop
        · refine h.subscribe (fun k hk => by simp [hk]) (by simpa using htriggers) (by simp)
            hselects ?_
          intro id snap hpolling
          refine h.cancelled hsub ?_
          simpa [Polling] using hpolling

theorem Settled.event {e : TriggerEvent} (h : c.Settled s) (hdistinct : Distinguished s c e) :
    Along (Watched s) (s.EventHandler urls c e).1 (s.EventHandler urls c e).2 := by
  cases e with
  | add | update => exact h.reconcile hdistinct
  | delete t => exact h.remove (fun k hk => by simp [hk]) (by simp)

end Events

end Control

/-- The events that a step takes up are told from what is polled for. -/
def State.Distinguished (s : Subscriber) (st : State) : Move → Prop
  | .event e => st.control.Distinguished s e
  | .handle _ | .poll _ _ | .setStarted | .shutdown => True

theorem State.watched {lib : BrokerLib} {urls : UrlLib} {s : Subscriber} {moves : List Move}
    {st : State}
    (hrun : Run (fun st m st' => st.Distinguished s m ∧ st.Step lib urls s m st') {} moves st) :
    Control.Along (Control.Watched s) st.control st.pending := by
  refine hrun.always (fun st => Control.Along (Control.Watched s) st.control st.pending) ?_ ?_
  · have hsettled : Control.Settled s {} := ⟨by simp, fun _ _ hpolling => nomatch hpolling.1⟩
    exact ⟨hsettled.atMostOne, fun _ => hsettled⟩
  · intro st m st' h hstep
    refine hstep.2.along h ?_
    rintro e rfl hwatched
    exact (hwatched.2 rfl).event hstep.1

/-- In every run whose events are told from what is polled for: a Trigger never has two loops that
are not cancelled. After an event the subscriptions are those of the selected Triggers, and each
such loop has the queue and the Flow of its Trigger's latest event. -/
theorem sqs_one_loop_of_latest_event (lib : BrokerLib) (urls : UrlLib) (s : Subscriber)
    (moves : List Move) (st : State)
    (hrun : Run (fun st m st' => st.Distinguished s m ∧ st.Step lib urls s m st') {} moves st) :
    (∀ id id' snap snap', st.control.Polling id snap → st.control.Polling id' snap' →
      snap.key = snap'.key → id = id') ∧
    (st.pending = [] →
      (∀ key, (st.control.subs key).isSome ↔
        ∃ t, st.control.triggers key = some t ∧ s.Selects t) ∧
      ∀ id snap, st.control.Polling id snap → ∃ t, st.control.triggers snap.key = some t ∧
        snap.queueURL = (snapshot t).queueURL ∧ snap.flowRefName = t.spec.flowRef) := by
  obtain ⟨hone, hend⟩ := (State.watched hrun).head
  refine ⟨hone, ?_⟩
  intro hidle
  have hsettled := hend hidle
  refine ⟨hsettled.keys, ?_⟩
  intro id snap hpolling
  obtain ⟨-, t, ht, hsnap⟩ := hsettled.current id snap hpolling
  exact ⟨t, ht, congrArg (·.queueURL) hsnap, congrArg (·.flowRefName) hsnap⟩

/-! ## Consecutive events -/

def Control.tells (c : Control) : TriggerEvent → Bool
  | .add t | .update t => (c.triggers t.key).all fun t₀ =>
    decide ((snapshot t₀).fingerprint = (snapshot t).fingerprint → snapshot t₀ = snapshot t)
  | .delete _ => true

theorem Control.Settled.distinguished {s : Subscriber} {c : Control} {e : TriggerEvent}
    (h : c.Settled s) (htells : c.tells e) : c.Distinguished s e := by
  have hupdate (t : Trigger) (ht : c.tells (.update t)) : c.Distinguished s (.update t) := by
    intro _ id snap hpolling hkey hfp
    obtain ⟨-, t₀, ht₀, rfl⟩ := h.current id snap hpolling
    rw [hkey] at ht₀
    rw [Control.tells, ht₀] at ht
    exact of_decide_eq_true ht hfp
  cases e with
  | add t | update t => exact hupdate t htells
  | delete t => trivial

def State.moveTold (lib : BrokerLib) (urls : UrlLib) (s : Subscriber) (st : State) (m : Move) :
    Option State :=
  match m with
  | .event e => if st.control.tells e then st.move lib urls s m else none
  | _ => st.move lib urls s m

theorem State.run_moveTold {lib : BrokerLib} {urls : UrlLib} {s : Subscriber} {moves : List Move}
    {st : State} (h : moves.foldlM (State.moveTold lib urls s) {} = some st) :
    Run (fun st m st' => st.Distinguished s m ∧ st.Step lib urls s m st') {} moves st := by
  refine Run.foldlM ?_ h
  intro before mid m st' hrun hm
  cases m with
  | event e =>
    simp only [State.moveTold] at hm
    split at hm
    next htells =>
      refine ⟨?_, hm⟩
      -- the event is taken up, so none is at hand
      have hidle : mid.pending = [] := by
        cases hpending : mid.pending with
        | nil => rfl
        | cons => simp [State.move, hpending] at hm
      exact ((State.watched hrun).head.2 hidle).distinguished htells
    · cases hm
  | handle | poll | setStarted | shutdown => exact ⟨trivial, hm⟩

def queueSubscriber : Subscriber := NewSubscriber "team" "aws" {}

def ordersUrl : String := "https://sqs.local/1/orders"

def queueUrls : UrlLib where
  quote s := "\"" ++ s ++ "\""
  parse raw :=
    if raw = ordersUrl then .ok ⟨"https", "sqs.local", "/1/orders"⟩
    else .error "net/url: invalid control character in URL"

def queueTrigger (queueURL flowRef : String) : Trigger where
  metadata := { name := ⟨"team", "orders"⟩ }
  spec := { type := .plugin, plugin := some ⟨"aws", [("queueUrl", queueURL)]⟩, flowRef := flowRef }

def flowChanges : List Move :=
  [.event (.add (queueTrigger ordersUrl "ship"))] ++ List.replicate 3 (.handle 1) ++
    [.event (.update (queueTrigger ordersUrl "return"))] ++ List.replicate 5 (.handle 1)

theorem sqs_loop_follows_flow : ∃ st : State, st.pending = [] ∧
    (∃ snap, st.control.started 1 = some snap ∧ snap.flowRefName = "return" ∧
      st.control.cancelled 0 = true ∧ st.control.cancelled 1 = false) ∧
    ∀ id snap, st.control.Polling id snap → ∃ t, st.control.triggers snap.key = some t ∧
      snap.queueURL = (snapshot t).queueURL ∧ snap.flowRefName = t.spec.flowRef := by
  have hend : (flowChanges.foldlM (State.moveTold default queueUrls queueSubscriber) {}).any
      (fun st => st.pending = [] ∧
        (st.control.started 1).any (·.flowRefName = "return") ∧
        st.control.cancelled 0 = true ∧ st.control.cancelled 1 = false) = true := by
    decide +kernel
  obtain ⟨st, hmoves, hst⟩ := (Option.any_eq_true _ _).mp hend
  obtain ⟨hidle, hflow, hold, hnew⟩ := of_decide_eq_true hst
  obtain ⟨snap, hstarted, hname⟩ := (Option.any_eq_true _ _).mp hflow
  refine ⟨st, hidle, ⟨snap, hstarted, of_decide_eq_true hname, hold, hnew⟩, ?_⟩
  exact ((sqs_one_loop_of_latest_event default queueUrls queueSubscriber flowChanges st
    (State.run_moveTold hmoves)).2 hidle).2

/-- Both the queue and the Flow change, and the fingerprint stays the same. -/
def separatorMoves : List Move :=
  [.event (.add (queueTrigger ordersUrl "ship\x00now"))] ++ List.replicate 3 (.handle 1) ++
    [.event (.update (queueTrigger (ordersUrl ++ "\x00ship") "now"))]

/-- The loop goes on with the queue and the Flow of before. -/
theorem sqs_loop_of_superseded_event : ∃ st : State,
    Run (State.Step default queueUrls queueSubscriber) {} separatorMoves st ∧ st.pending = [] ∧
      ∃ snap t, st.control.Polling 0 snap ∧ st.control.triggers snap.key = some t ∧
        snap.queueURL ≠ (snapshot t).queueURL ∧ snap.flowRefName ≠ t.spec.flowRef := by
  have hend : (separatorMoves.foldlM (State.move default queueUrls queueSubscriber) {}).any
      (fun st => st.pending = [] ∧ st.control.cancelled 0 = false ∧
        (st.control.started 0).any fun snap => (st.control.triggers snap.key).any fun t =>
          snap.queueURL ≠ (snapshot t).queueURL ∧ snap.flowRefName ≠ t.spec.flowRef) = true := by
    decide +kernel
  obtain ⟨st, hmoves, hst⟩ := (Option.any_eq_true _ _).mp hend
  obtain ⟨hidle, hcancelled, hloop⟩ := of_decide_eq_true hst
  obtain ⟨snap, hstarted, htrigger⟩ := (Option.any_eq_true _ _).mp hloop
  obtain ⟨t, ht, hne⟩ := (Option.any_eq_true _ _).mp htrigger
  have hrun : Run (State.Step default queueUrls queueSubscriber) {} separatorMoves st :=
    Run.foldlM (fun _ h => h) hmoves
  exact ⟨st, hrun, hidle, snap, t, ⟨hstarted, hcancelled⟩, ht, of_decide_eq_true hne⟩

end KubeZap.AwsMessaging
