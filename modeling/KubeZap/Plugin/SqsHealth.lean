import KubeZap.Plugin.SqsSubscriptions

/-! # Sessions and subscriptions

The sessions of `health.go` are written by the handler of the events and by the poll loops, under
a lock that is not the subscriber's. A loop that finds its context alive may call `SetSession` after
the handler has forgotten the key or given it to another subscription; what it writes then stays.
Where each loop that writes is the one of the key's subscription, or the handler is still to write
the key, the sessions are those of the subscriptions.
-/

namespace KubeZap.AwsMessaging

open Foundation

def Op.writes (key : NamespacedName) : Op → Bool
  | .setSession k _ _ _ | .forget k => k = key
  | .cancel _ | .delete _ | .store _ _ | .go _ _ => false

/-- What the operation writes is right for what the handler will have stored. -/
def Op.Right (c : Control) : Op → Prop
  | .setSession key _ _ writer => (c.subs key).map (·.id) = some writer
  | .forget key => c.subs key = none
  | .cancel _ | .delete _ | .store _ _ | .go _ _ => True

/-- The next operation writes what is right, and a subscription whose session has been written
stays. -/
structure Consistent (c : Control) (ops : List Op) : Prop where
  right : ∀ op rest, ops = op :: rest → op.Right (c.after ops)
  stays : ∀ key sub, c.subs key = some sub → (∀ op ∈ ops, op.writes key = false) →
    (c.after ops).subs key = some sub

section Events

variable {urls : UrlLib} {s : Subscriber} {c : Control} {key : NamespacedName}
  {snap : SubscriptionSnapshot} {id : Nat}

theorem consistent_nil : Consistent c [] := ⟨nofun, fun _ _ hsub _ => hsub⟩

theorem consistent_cons (key : NamespacedName) {op : Op} {ops : List Op}
    (hright : op.Right (c.after (op :: ops)))
    (hother : ∀ k ≠ key, (c.after (op :: ops)).subs k = c.subs k)
    (hwrites : c.subs key = none ∨ (c.after (op :: ops)).subs key = c.subs key ∨
      ∃ op' ∈ op :: ops, op'.writes key = true) : Consistent c (op :: ops) where
  right op' rest heq := by
    cases heq
    exact hright
  stays k sub hsub hquiet := by
    by_cases hk : k = key
    · subst hk
      rcases hwrites with hnone | hsame | ⟨op', hmem, hwrite⟩
      · rw [hnone] at hsub
        cases hsub
      · rw [hsame, hsub]
      · rw [hquiet op' hmem] at hwrite
        cases hwrite
    · rw [hother k hk, hsub]

theorem along_subscribe (hnone : c.subs snap.key = none) :
    Control.Along Consistent c (subscribe urls id snap) := by
  have hother {c' : Control} {sub : Subscription} {subs : Subs}
      (hsubs : c'.subs = Function.update subs snap.key (some sub)) :
      ∀ k ≠ snap.key, c'.subs k = subs k := by
    intro k hk
    simp [hsubs, hk]
  unfold subscribe
  split
  · refine ⟨consistent_cons snap.key ?_ (hother rfl) (.inl hnone), consistent_cons snap.key trivial
      (hother rfl) (.inl hnone), consistent_nil⟩
    simp [Op.Right]
  · refine ⟨consistent_cons snap.key trivial (hother rfl) (.inl hnone), ?_, ?_, consistent_nil⟩
    · exact consistent_cons snap.key (by simp [Op.Right]) (fun k _ => rfl) (.inr (.inl rfl))
    · exact consistent_cons snap.key trivial (fun k _ => rfl) (.inr (.inl rfl))

theorem along_remove : Control.Along Consistent c (Remove c.subs key) := by
  have hother (k : NamespacedName) (hk : k ≠ key) :
      Function.update c.subs key none k = c.subs k := by simp [hk]
  unfold Remove
  split
  · refine ⟨consistent_cons key trivial (by simpa using hother) ?_, consistent_cons key trivial
      (by simp) ?_, consistent_cons key ?_ (by simp) ?_, consistent_nil⟩
    · exact .inr (.inr ⟨.forget key, by simp, by simp [Op.writes]⟩)
    · exact .inr (.inr ⟨.forget key, by simp, by simp [Op.writes]⟩)
    · simp [Op.Right]
    · exact .inr (.inr ⟨.forget key, by simp, by simp [Op.writes]⟩)
  · refine ⟨consistent_cons key trivial (by simpa using hother) ?_, consistent_cons key ?_
      (by simp) ?_, consistent_nil⟩
    · exact .inr (.inr ⟨.forget key, by simp, by simp [Op.writes]⟩)
    · simp [Op.Right]
    · exact .inr (.inr ⟨.forget key, by simp, by simp [Op.writes]⟩)

theorem subscribe_writes : ∃ op ∈ subscribe urls id snap, op.writes snap.key = true := by
  unfold subscribe
  split <;> simp [Op.writes]

theorem subscribe_subs {k : NamespacedName} (hk : k ≠ snap.key) :
    (c.after (subscribe urls id snap)).subs k = c.subs k := by
  unfold subscribe
  split <;> simp [hk]

theorem remove_writes : ∃ op ∈ Remove c.subs key, op.writes key = true := by
  unfold Remove
  split <;> simp [Op.writes]

theorem remove_subs {k : NamespacedName} (hk : k ≠ key) :
    (c.after (Remove c.subs key)).subs k = c.subs k := by
  unfold Remove
  split <;> simp [hk]

variable {t : Trigger}

theorem along_restart {cur : Subscription} :
    Control.Along Consistent c
      (.cancel cur :: .delete t.key :: subscribe urls id (snapshot t)) := by
  obtain ⟨op, hop, hwrites⟩ := @subscribe_writes urls (snapshot t) id
  refine ⟨consistent_cons t.key trivial ?_ ?_, consistent_cons t.key trivial ?_ ?_,
    along_subscribe (by simp)⟩
  · intro k hk
    rw [Control.after_cons, Control.after_cons, subscribe_subs (by simpa using hk)]
    simp [hk]
  · exact .inr (.inr ⟨op, by simp [hop], hwrites⟩)
  · intro k hk
    rw [Control.after_cons, subscribe_subs (by simpa using hk)]
    simp [hk]
  · exact .inr (.inr ⟨op, by simp [hop], hwrites⟩)

theorem along_reconcile : Control.Along Consistent c (s.Reconcile urls c.subs id t) := by
  unfold Subscriber.Reconcile
  split
  · exact along_remove
  · cases hsub : c.subs t.key with
    | none => exact along_subscribe hsub
    | some cur =>
      simp only
      split
      · exact consistent_nil
      · exact along_restart

theorem reconcile_writes (k : NamespacedName) :
    (∃ op ∈ s.Reconcile urls c.subs id t, op.writes k = true) ∨
      (c.after (s.Reconcile urls c.subs id t)).subs k = c.subs k := by
  have hsubscribe := @subscribe_writes urls (snapshot t) id
  unfold Subscriber.Reconcile
  split
  · by_cases hk : k = t.key
    · subst hk
      exact .inl remove_writes
    · exact .inr (remove_subs hk)
  · cases hsub : c.subs t.key with
    | none =>
      by_cases hk : k = t.key
      · subst hk
        exact .inl hsubscribe
      · exact .inr (subscribe_subs (by simpa using hk))
    | some cur =>
      simp only
      split
      · exact .inr rfl
      · by_cases hk : k = t.key
        · subst hk
          obtain ⟨op, hop, hwrites⟩ := hsubscribe
          exact .inl ⟨op, by simp [hop], hwrites⟩
        · right
          rw [Control.after_cons, Control.after_cons, subscribe_subs (by simpa using hk)]
          simp [hk]

theorem along_event (e : TriggerEvent) :
    Control.Along Consistent (s.EventHandler urls c e).1 (s.EventHandler urls c e).2 := by
  cases e with
  | add | update => exact along_reconcile
  | delete t => exact along_remove

theorem event_writes (e : TriggerEvent) (k : NamespacedName) :
    (∃ op ∈ (s.EventHandler urls c e).2, op.writes k = true) ∨
      ((s.EventHandler urls c e).1.after (s.EventHandler urls c e).2).subs k = c.subs k := by
  cases e with
  | add t => exact @reconcile_writes urls s (s.EventHandler urls c (.add t)).1 c.next t k
  | update t => exact @reconcile_writes urls s (s.EventHandler urls c (.update t)).1 c.next t k
  | delete t =>
    by_cases hk : k = t.key
    · subst hk
      exact .inl remove_writes
    · exact .inr (remove_subs hk)

end Events

/-! ## Who writes a session -/

namespace Health

variable {h : Health} {key : NamespacedName}

def writer (h : Health) (key : NamespacedName) : Option Nat :=
  (Keyed.find Session.key h.sessions key).map (·.writer)

theorem writer_SetSession {k : NamespacedName} {ok : Bool} {msg : String} {id : Nat} :
    (h.SetSession k ok msg id).writer key = if k = key then some id else h.writer key := by
  unfold writer SetSession
  rw [Keyed.find_upsert]
  split <;> rfl

theorem writer_Forget {k : NamespacedName} :
    (h.Forget k).writer key = if k = key then none else h.writer key := by
  unfold writer Forget
  rw [Keyed.find_filter_ne]
  split <;> rfl

def Distinct (h : Health) : Prop := (h.sessions.map (·.key)).Nodup

theorem Distinct.SetSession (hh : h.Distinct) {ok : Bool} {msg : String} {id : Nat} :
    (h.SetSession key ok msg id).Distinct :=
  Keyed.nodup_upsert _ hh

theorem Distinct.Forget (hh : h.Distinct) : (h.Forget key).Distinct :=
  hh.sublist (List.filter_sublist.map _)

end Health

/-- A key has the session of its subscription, or the handler is still to write it. -/
structure State.Covered (st : State) : Prop where
  along : Control.Along Consistent st.control st.pending
  written : ∀ key, (∃ op ∈ st.pending, op.writes key = true) ∨
    st.health.writer key = ((st.control.after st.pending).subs key).map (·.id)
  distinct : st.health.Distinct

/-- The loop that writes is the one of the key's subscription, or the handler is still to write the
key. -/
def State.Reports (st : State) : Move → Prop
  | .poll id _ => ∀ key ok msg k, st.loops id = some (.call (.setSession key ok msg) k) →
      (∃ op ∈ st.pending, op.writes key = true) ∨ (st.control.subs key).map (·.id) = some id
  | .event _ | .handle _ | .setStarted | .shutdown => True

section Steps

variable {lib : BrokerLib} {urls : UrlLib} {s : Subscriber} {st st' : State} {m : Move}

theorem Op.health_writer {op : Op} {h : Health} {key : NamespacedName}
    (hop : op.writes key = false) : (op.health h).writer key = h.writer key := by
  cases op with
  | setSession k ok msg id =>
    have hk : k ≠ key := by simpa [Op.writes] using hop
    simp only [Op.health, Health.writer_SetSession, if_neg hk]
  | forget k =>
    have hk : k ≠ key := by simpa [Op.writes] using hop
    simp only [Op.health, Health.writer_Forget, if_neg hk]
  | cancel | delete | store | go => rfl

theorem Op.Right.writer {op : Op} {h : Health} {c : Control} {key : NamespacedName}
    (hright : op.Right c) (hop : op.writes key = true) :
    (op.health h).writer key = (c.subs key).map (·.id) := by
  cases op with
  | setSession k ok msg id =>
    obtain rfl : k = key := by simpa [Op.writes] using hop
    simp only [Op.health, Health.writer_SetSession, if_true]
    exact hright.symm
  | forget k =>
    obtain rfl : k = key := by simpa [Op.writes] using hop
    have hnone : c.subs k = none := hright
    simp only [Op.health, Health.writer_Forget, if_true, hnone, Option.map_none]
  | cancel | delete | store | go => cases hop

theorem Op.health_distinct {op : Op} {h : Health} (hh : h.Distinct) : (op.health h).Distinct := by
  cases op with
  | setSession => exact hh.SetSession
  | forget => exact hh.Forget
  | cancel | delete | store | go => exact hh

theorem State.Covered.handle {op : Op} {rest : List Op} (h : st.Covered)
    (hpending : st.pending = op :: rest) (key : NamespacedName) :
    (∃ op' ∈ rest, op'.writes key = true) ∨ (op.health st.health).writer key =
      (((op.control st.control).after rest).subs key).map (·.id) := by
  have halong := h.along
  rw [hpending] at halong
  cases hop : op.writes key with
  | true => exact .inr ((halong.1.right op rest rfl).writer hop)
  | false =>
    rw [Op.health_writer hop]
    have hwritten := h.written key
    rw [hpending] at hwritten
    rcases hwritten with ⟨op', hmem, hwrites⟩ | hright
    · rcases List.mem_cons.mp hmem with rfl | hmem
      · rw [hop] at hwrites
        cases hwrites
      · exact .inl ⟨op', hmem, hwrites⟩
    · exact .inr hright

theorem State.Covered.poll {id : Nat} {q : Req} (h : st.Covered)
    (hown : ∀ key ok msg, q = .setSession key ok msg →
      (∃ op ∈ st.pending, op.writes key = true) ∨ (st.control.subs key).map (·.id) = some id)
    (key : NamespacedName) :
    (∃ op ∈ st.pending, op.writes key = true) ∨ (q.health id st.health).writer key =
      ((st.control.after st.pending).subs key).map (·.id) := by
  cases q with
  | setSession k ok msg =>
    simp only [Req.health, Health.writer_SetSession]
    by_cases hk : k = key
    · subst hk
      by_cases hwrites : ∃ op ∈ st.pending, op.writes k = true
      · exact .inl hwrites
      · rcases hown k ok msg rfl with hpending | hcurrent
        · exact .inl hpending
        · obtain ⟨sub, hsub, hid⟩ := Option.map_eq_some_iff.mp hcurrent
          have hstays := h.along.head.stays k sub hsub fun op hop => by
            simpa using fun hop' => hwrites ⟨op, hop, hop'⟩
          exact .inr (by simp [hstays, hid])
    · simp only [if_neg hk]
      exact h.written key
  | ctxErr | getQueueAttributes | receiveMessage | sleep | create | deleteMessage =>
    exact h.written key

theorem Req.health_distinct {id : Nat} {q : Req} {h : Health} (hh : h.Distinct) :
    (q.health id h).Distinct := by
  cases q with
  | setSession => exact hh.SetSession
  | ctxErr | getQueueAttributes | receiveMessage | sleep | create | deleteMessage => exact hh

theorem State.Covered.step (h : st.Covered) (hreports : st.Reports m)
    (hstep : st.Step lib urls s m st') : st'.Covered := by
  have halong := hstep.along h.along fun e _ _ => along_event e
  obtain ⟨e, rfl, hpending, hnext, hhealth⟩ |
    ⟨rounds, op, rest, rfl, hpending, hcontrol, hrest, hhealth⟩ |
    ⟨id, reply, q, k, rfl, hloop, hcontrol, hrest, hhealth⟩ |
    ⟨hcontrol, hrest, hsessions⟩ := State.step_cases hstep
  · refine ⟨halong, ?_, hhealth ▸ h.distinct⟩
    intro key
    have hcontrol : st'.control = (s.EventHandler urls st.control e).1 := congrArg Prod.fst hnext
    have hrest : st'.pending = (s.EventHandler urls st.control e).2 := congrArg Prod.snd hnext
    rw [hcontrol, hrest, hhealth]
    rcases @event_writes urls s st.control e key with hwrites | hsame
    · exact .inl hwrites
    · have hidle := h.written key
      rw [hpending] at hidle
      rcases hidle with ⟨op, hmem, -⟩ | hidle
      · cases hmem
      · exact .inr (by rw [hsame, hidle, Control.after_nil])
  · refine ⟨halong, ?_, hhealth ▸ Op.health_distinct h.distinct⟩
    intro key
    rw [hcontrol, hrest, hhealth]
    exact h.handle hpending key
  · refine ⟨halong, ?_, hhealth ▸ Req.health_distinct h.distinct⟩
    intro key
    rw [hcontrol, hrest, hhealth]
    refine h.poll ?_ key
    rintro key ok msg rfl
    exact hreports key ok msg k hloop
  · refine ⟨halong, ?_, ?_⟩
    · intro key
      have hwriter : st'.health.writer key = st.health.writer key := by
        simp only [Health.writer, hsessions]
      rw [hcontrol, hrest, hwriter]
      exact h.written key
    · rw [Health.Distinct, hsessions]
      exact h.distinct

end Steps

theorem Health.unavailable {h : Health} {publisherCheck : Option String}
    (h503 : (h.ServeHTTP publisherCheck).1 = 503) :
    h.started = false ∨ publisherCheck.isSome ∨ ∃ session ∈ h.sessions, session.ok = false := by
  cases hstarted : h.started with
  | false => exact .inl rfl
  | true =>
    cases publisherCheck with
    | some err => exact .inr (.inl rfl)
    | none =>
      refine .inr (.inr ?_)
      by_contra hall
      have hgood : h.sessions.filter (!·.ok) = [] := by
        rw [List.filter_eq_nil_iff]
        intro session hmem hbad
        exact hall ⟨session, hmem, by simpa using hbad⟩
      simp [Health.ServeHTTP, Health.Check, hstarted, hgood] at h503

/-- In every run whose writing loops are those of the key's subscription: when no event is at hand,
the sessions are exactly those of the subscriptions, each as its subscription has written it. So
where `/healthz` answers 503 for a session, a subscription that is there has lost it. -/
theorem sqs_sessions_of_subscriptions (lib : BrokerLib) (urls : UrlLib) (s : Subscriber)
    (moves : List Move) (st : State)
    (hrun : Run (fun st m st' => st.Reports m ∧ st.Step lib urls s m st') {} moves st)
    (hidle : st.pending = []) :
    (∀ key, (∃ session ∈ st.health.sessions, session.key = key) ↔
      (st.control.subs key).isSome) ∧
    (∀ session ∈ st.health.sessions, ∃ sub, st.control.subs session.key = some sub ∧
      session.writer = sub.id) ∧
    ∀ publisherCheck, (st.health.ServeHTTP publisherCheck).1 = 503 →
      st.health.started = false ∨ publisherCheck.isSome ∨
      ∃ session ∈ st.health.sessions, session.ok = false ∧
        ∃ sub, st.control.subs session.key = some sub ∧ session.writer = sub.id := by
  have h : st.Covered := by
    refine hrun.always State.Covered ?_ ?_
    · exact ⟨consistent_nil, fun _ => .inr rfl, List.nodup_nil⟩
    · intro st m st' hcovered hstep
      exact hcovered.step hstep.1 hstep.2
  have hwriter (key : NamespacedName) :
      st.health.writer key = (st.control.subs key).map (·.id) := by
    have hwritten := h.written key
    rw [hidle] at hwritten
    rcases hwritten with ⟨op, hmem, -⟩ | hwriter
    · cases hmem
    · exact hwriter
  have hcurrent (session : Session) (hmem : session ∈ st.health.sessions) :
      ∃ sub, st.control.subs session.key = some sub ∧ session.writer = sub.id := by
    have hkey := hwriter session.key
    rw [Health.writer, Keyed.find_of_mem h.distinct hmem] at hkey
    obtain ⟨sub, hsub, hid⟩ := Option.map_eq_some_iff.mp hkey.symm
    exact ⟨sub, hsub, hid.symm⟩
  refine ⟨?_, hcurrent, ?_⟩
  · intro key
    constructor
    · rintro ⟨session, hmem, rfl⟩
      obtain ⟨sub, hsub, -⟩ := hcurrent session hmem
      simp [hsub]
    · intro hsome
      obtain ⟨sub, hsub⟩ := Option.isSome_iff_exists.mp hsome
      have hkey := hwriter key
      rw [hsub] at hkey
      obtain ⟨session, hfind, -⟩ := Option.map_eq_some_iff.mp hkey
      exact ⟨session, Keyed.mem_of_find hfind, Keyed.key_of_find hfind⟩
  · intro publisherCheck h503
    rcases Health.unavailable h503 with hstarted | hpublisher | ⟨session, hmem, hok⟩
    · exact .inl hstarted
    · exact .inr (.inl hpublisher)
    · exact .inr (.inr ⟨session, hmem, hok, hcurrent session hmem⟩)

/-! ## A session and its loop -/

def State.moveOwned (lib : BrokerLib) (urls : UrlLib) (s : Subscriber) (st : State) (m : Move) :
    Option State :=
  match m with
  | .poll id _ =>
    match st.loops id with
    | some (.call (.setSession key _ _) _) =>
      if (st.control.subs key).map (·.id) = some id then st.move lib urls s m else none
    | _ => st.move lib urls s m
  | _ => st.move lib urls s m

theorem State.moveOwned_eq_some {lib : BrokerLib} {urls : UrlLib} {s : Subscriber}
    {st st' : State} {m : Move} (h : st.moveOwned lib urls s m = some st') :
    st.Reports m ∧ st.Step lib urls s m st' := by
  cases m with
  | poll id reply =>
    simp only [State.moveOwned] at h
    split at h
    · rename_i key ok msg k hloop
      split at h
      · rename_i hcurrent
        refine ⟨?_, h⟩
        intro key' ok' msg' k' hloop'
        cases hloop.symm.trans hloop'
        exact .inr hcurrent
      · cases h
    · rename_i hloop
      refine ⟨?_, h⟩
      intro key ok msg k hloop'
      exact absurd hloop' (hloop key ok msg k)
  | event | handle | setStarted | shutdown => exact ⟨trivial, h⟩

def queueAnswers (err : Option String) (ended : Bool) : (q : Req) → q.Reply
  | .ctxErr => ended
  | .sleep _ => !ended
  | .getQueueAttributes _ | .deleteMessage .. => err
  | .receiveMessage .. => .ok []
  | .setSession .. => ()
  | .create .. => .created

def returnsTrigger : Trigger :=
  { queueTrigger ordersUrl "return" with metadata := { name := ⟨"team", "returns"⟩ } }

/-- The session of one Trigger is established, the check of the other one's fails. -/
def sessionsReported : List Move :=
  [.setStarted, .event (.add (queueTrigger ordersUrl "ship"))] ++ List.replicate 3 (.handle 1) ++
    [.event (.add returnsTrigger)] ++ List.replicate 3 (.handle 1) ++
    List.replicate 3 (.poll 0 (queueAnswers none false)) ++
    List.replicate 4 (.poll 1 (queueAnswers (some "timeout") false))

theorem sqs_sessions_reported : ∃ st : State, st.pending = [] ∧
    st.health.sessions =
      [⟨⟨"team", "orders"⟩, true, "", 0⟩, ⟨⟨"team", "returns"⟩, false, "timeout", 1⟩] ∧
    (st.health.ServeHTTP none).1 = 503 ∧
    ∃ session ∈ st.health.sessions, session.ok = false ∧
      ∃ sub, st.control.subs session.key = some sub ∧ session.writer = sub.id := by
  have hend : (sessionsReported.foldlM
      (State.moveOwned default queueUrls queueSubscriber) {}).any
      (fun st => st.pending = [] ∧ st.health.started = true ∧
        st.health.sessions =
          [⟨⟨"team", "orders"⟩, true, "", 0⟩, ⟨⟨"team", "returns"⟩, false, "timeout", 1⟩] ∧
        (st.health.ServeHTTP none).1 = 503) = true := by
    decide +kernel
  obtain ⟨st, hmoves, hst⟩ := (Option.any_eq_true _ _).mp hend
  obtain ⟨hidle, hstarted, hsessions, hserve⟩ := of_decide_eq_true hst
  have hreason := (sqs_sessions_of_subscriptions default queueUrls queueSubscriber sessionsReported
    st (Run.foldlM (fun _ => State.moveOwned_eq_some) hmoves) hidle).2.2 none hserve
  simp only [hstarted, Option.isSome_none, Bool.true_eq_false, Bool.false_eq_true, false_or]
    at hreason
  exact ⟨st, hidle, hsessions, hserve, hreason⟩

def State.exited (st : State) (id : Nat) : Bool :=
  match st.loops id with
  | some (.pure _) => true
  | _ => false

/-- The session check fails, and the Trigger is deleted before the loop reports it. -/
def deletedBeforeReport : List Move :=
  [.setStarted, .event (.add (queueTrigger ordersUrl "ship"))] ++ List.replicate 3 (.handle 1) ++
    List.replicate 3 (.poll 0 (queueAnswers (some "timeout") false)) ++
    [.event (.delete (queueTrigger ordersUrl "ship"))] ++ List.replicate 3 (.handle 1) ++
    List.replicate 2 (.poll 0 (queueAnswers none true))

/-- There is no subscription and every cancelled loop has returned; `/healthz` answers 503. -/
theorem sqs_session_of_deleted_trigger : ∃ st : State,
    Run (State.Step default queueUrls queueSubscriber) {} deletedBeforeReport st ∧
      st.pending = [] ∧ (∀ id < st.control.next, st.control.cancelled id → st.exited id) ∧
      st.control.subs ⟨"team", "orders"⟩ = none ∧
      st.health.sessions = [⟨⟨"team", "orders"⟩, false, "timeout", 0⟩] ∧
      st.health.ServeHTTP none = (503, "no SQS session for: orders: timeout\n") := by
  have hend : (deletedBeforeReport.foldlM (State.move default queueUrls queueSubscriber) {}).any
      (fun st => st.pending = [] ∧
        (∀ id < st.control.next, st.control.cancelled id → st.exited id) ∧
        st.control.subs ⟨"team", "orders"⟩ = none ∧
        st.health.sessions = [⟨⟨"team", "orders"⟩, false, "timeout", 0⟩] ∧
        st.health.ServeHTTP none = (503, "no SQS session for: orders: timeout\n")) = true := by
    decide +kernel
  obtain ⟨st, hmoves, hst⟩ := (Option.any_eq_true _ _).mp hend
  have hrun : Run (State.Step default queueUrls queueSubscriber) {} deletedBeforeReport st :=
    Run.foldlM (fun _ h => h) hmoves
  exact ⟨st, hrun, of_decide_eq_true hst⟩

end KubeZap.AwsMessaging
