import KubeZap.Plugin.SqsSubscriber

/-! # What a deleted message has become

The name of a FlowRun is the Trigger's name and the message's id, and both can be read
off it: an id has 36 characters. So a name that is taken was taken for the same Trigger
and the same message, and a message is deleted only when its FlowRun is there.
-/

namespace KubeZap.AwsMessaging

open Foundation

/-! ## Names -/

theorem isUUID_get {s : String} (h : isUUID s) {i : Nat} (hi : i < s.toList.length) :
    if i ∈ [8, 13, 18, 23] then s.toList[i] = '-'
    else ('0' ≤ s.toList[i] ∧ s.toList[i] ≤ '9') ∨ ('a' ≤ s.toList[i] ∧ s.toList[i] ≤ 'f') := by
  simp only [isUUID, Bool.and_eq_true, List.all_eq_true] at h
  have hmem : (s.toList[i], i) ∈ s.toList.zipIdx := by
    rw [List.mk_mem_zipIdx_iff_getElem?]
    exact List.getElem?_eq_getElem hi
  have hc := h.2 _ hmem
  split
  · simpa [*] using hc
  · simpa [*] using hc

theorem isUUID_length {s : String} (h : isUUID s) : s.toList.length = 36 := by
  simp only [isUUID, Bool.and_eq_true, beq_iff_eq] at h
  exact h.1

theorem isUUID_nameRune {s : String} (h : isUUID s) : ∀ c ∈ s.toList, NameRune c := by
  intro c hc
  obtain ⟨i, hi, rfl⟩ := List.getElem_of_mem hc
  have hget := isUUID_get h hi
  split at hget
  · exact .inr (.inr hget)
  · rcases hget with hdigit | ⟨ha, hf⟩
    · exact .inr (.inl hdigit)
    · exact .inl ⟨ha, Char.le_trans hf (show 'f' ≤ 'z' by decide)⟩

theorem isUUID_getLast {s : String} (h : isUUID s) (hs : s.toList ≠ []) :
    s.toList.getLast hs ≠ '-' := by
  have hlength := isUUID_length h
  have hget := isUUID_get h (i := 35) (by omega)
  have hlast : s.toList.getLast hs = s.toList[35] := by
    rw [List.getLast_eq_getElem]
    simp only [hlength]
  rw [if_neg (by decide)] at hget
  rw [hlast]
  intro heq
  rw [heq] at hget
  revert hget
  decide

theorem FlowRunName_eq {name id : String} (hname : PluginName name) (hid : isUUID id) :
    FlowRunName name id = name ++ "-msg-" ++ id := by
  have hlength := isUUID_length hid
  have hsanitized : sanitizeFlowRunName (name ++ "-msg-" ++ id) = name ++ "-msg-" ++ id := by
    rw [String.append_assoc]
    refine hname.sanitize ?_ ?_
    · rw [String.toList_append, List.forall_mem_append]
      exact ⟨by simp [NameRune], isUUID_nameRune hid⟩
    · rw [String.toList_append, List.length_append, hlength]
      decide
  rw [FlowRunName, hsanitized, trimDashes, List.rdropWhile_eq_self_iff.mpr, String.ofList_toList]
  intro hne
  have hid' : id.toList ≠ [] := List.ne_nil_of_length_pos (by omega)
  simp only [String.toList_append, List.getLast_append_of_ne_nil _ hid']
  simpa using isUUID_getLast hid hid'

theorem FlowRunName_inj {name name' id id' : String} (hname : PluginName name)
    (hname' : PluginName name') (hid : isUUID id) (hid' : isUUID id')
    (h : FlowRunName name id = FlowRunName name' id') : name = name' ∧ id = id' := by
  rw [FlowRunName_eq hname hid, FlowRunName_eq hname' hid'] at h
  have hlist := congrArg String.toList h
  simp only [String.toList_append] at hlist
  obtain ⟨hfront, hback⟩ :=
    List.append_inj' hlist ((isUUID_length hid).trans (isUUID_length hid').symm)
  exact ⟨String.toList_inj.mp (List.append_cancel_right hfront), String.toList_inj.mp hback⟩

/-! ## The FlowRun of a message -/

namespace Origin

def key (origin : Origin) : NamespacedName :=
  ⟨origin.trigger.namespace_, FlowRunName origin.trigger.name (origin.msg.messageId.getD "")⟩

def Same (origin origin' : Origin) : Prop :=
  origin.trigger = origin'.trigger ∧ origin.msg.messageId = origin'.msg.messageId

theorem Same.key_eq {origin origin' : Origin} (h : origin.Same origin') :
    origin.key = origin'.key := by
  simp only [key, h.1, h.2]

/-- A message that was sent, in the hands of a Trigger with a good name. -/
def Valid (queues : Queues) (origin : Origin) : Prop :=
  PluginName origin.trigger.name ∧
    ∃ id, origin.msg.messageId = some id ∧ queues.sent id = some origin.msg.toPayload

variable {queues : Queues} {origin origin' : Origin}

theorem Valid.messageName (h : origin.Valid queues) : MessageName origin.key := by
  obtain ⟨hname, id, hid, hsent⟩ := h
  refine ⟨origin.trigger.name, id, queues.uuids hsent, ?_⟩
  simp only [key, hid, Option.getD_some, FlowRunName_eq hname (queues.uuids hsent)]

theorem Valid.same (h : origin.Valid queues) (h' : origin'.Valid queues)
    (hkey : origin.key = origin'.key) : origin.Same origin' := by
  obtain ⟨hname, id, hid, hsent⟩ := h
  obtain ⟨hname', id', hid', hsent'⟩ := h'
  simp only [key, hid, hid', Option.getD_some, NamespacedName.mk.injEq] at hkey
  obtain ⟨htrigger, hids⟩ :=
    FlowRunName_inj hname hname' (queues.uuids hsent) (queues.uuids hsent') hkey.2
  refine ⟨?_, by rw [hid, hid', hids]⟩
  exact NamespacedName.ext hkey.1 htrigger

theorem Valid.payload_eq (h : origin.Valid queues) (h' : origin'.Valid queues)
    (hsame : origin.Same origin') : origin.msg.toPayload = origin'.msg.toPayload := by
  obtain ⟨-, id, hid, hsent⟩ := h
  obtain ⟨-, id', hid', hsent'⟩ := h'
  cases hid.symm.trans (hsame.2.trans hid')
  exact Option.some.inj (hsent.symm.trans hsent')

end Origin

/-- The FlowRun is the Trigger's and has the data of the message. -/
def Built (lib : BrokerLib) (origin : Origin) (spec : FlowRunSpec) : Prop :=
  spec.triggerRef = some ⟨origin.trigger.name, .plugin⟩ ∧
    spec.triggerData = some (messageData lib origin.msg.toPayload)

def MadeFrom (lib : BrokerLib) (queues : Queues) (origin : Origin) (key : NamespacedName)
    (spec : FlowRunSpec) : Prop :=
  key = origin.key ∧ origin.Valid queues ∧ Built lib origin spec

/-! ## The calls of a subscription -/

def Req.Aside : Req → Prop
  | .create .. | .deleteMessage .. => False
  | _ => True

def Req.Credible (queues : Queues) : (q : Req) → q.Reply → Prop
  | .receiveMessage queueURL _ _, .ok messages => ∀ msg ∈ messages, queues.Delivers queueURL msg
  | _, _ => True

/-- The stage is the message whose FlowRun is there, as the server has said. -/
inductive Moves (lib : BrokerLib) (queues : Queues) : Protocol (Option Origin) Req.Reply
  | aside (stage : Option Origin) {q : Req} (x : q.Reply) : q.Aside →
      Moves lib queues stage q x stage
  | created (stage : Option Origin) {origin : Origin} (flowRefName : String) {x : CreateReply} :
      origin.Valid queues → (∀ err, x ≠ .failed err) →
      Moves lib queues stage (.create origin (BuildFlowRun lib origin.trigger.namespace_
        origin.trigger.name flowRefName origin.msg)) x (some origin)
  | failed (stage : Option Origin) {origin : Origin} (flowRefName err : String) :
      origin.Valid queues →
      Moves lib queues stage (.create origin (BuildFlowRun lib origin.trigger.namespace_
        origin.trigger.name flowRefName origin.msg)) (.failed err) none
  | delete {origin : Origin} {queueURL receiptHandle : String} (x : Option String) :
      queues.handles queueURL receiptHandle = origin.msg.messageId →
      Moves lib queues (some origin) (.deleteMessage origin.trigger queueURL receiptHandle) x none

section Follow

variable {lib : BrokerLib} {queues : Queues} {snap : SubscriptionSnapshot} {opts : Options}

def Proceeds {α : Type} (lib : BrokerLib) (queues : Queues) (p : SqsProgram α) : Prop :=
  ∀ stage, Follows (Moves lib queues) (Req.Credible queues) (fun _ _ => True) stage p

theorem Proceeds.aside {α : Type} {q : Req} {f : q.Reply → SqsProgram α} (hq : q.Aside)
    (hf : ∀ x, Req.Credible queues q x → Proceeds lib queues (f x)) :
    Proceeds lib queues (Req.send q >>= f) := by
  intro stage x hx
  exact ⟨stage, .aside stage x hq, hf x hx stage⟩

theorem Proceeds.bind {α β : Type} {p : SqsProgram α} {f : α → SqsProgram β}
    (hp : Proceeds lib queues p) (hf : ∀ a, Proceeds lib queues (f a)) :
    Proceeds lib queues (p >>= f) :=
  fun stage => (hp stage).bind fun stage' a _ => hf a stage'

theorem Proceeds.done {α : Type} (a : α) : Proceeds lib queues (pure a) := fun _ => trivial

theorem proceeds_handleMessage (hname : PluginName snap.key.name) {msg : Message}
    (hmsg : queues.Delivers snap.queueURL msg) :
    Proceeds lib queues (handleMessage lib snap msg) := by
  intro stage
  unfold handleMessage
  split
  · trivial
  next hne =>
    obtain ⟨id, hid⟩ : ∃ id, msg.messageId = some id := by
      cases hid : msg.messageId with
      | none => simp [hid] at hne
      | some id => exact ⟨id, rfl⟩
    obtain ⟨hsent, hhandle⟩ := hmsg id hid (by rwa [hid] at hne)
    have hvalid : Origin.Valid queues ⟨snap.key, msg⟩ := ⟨hname, id, hid, hsent⟩
    intro x _
    cases x with
    | failed err => exact ⟨none, .failed stage snap.flowRefName err hvalid, trivial⟩
    | created | alreadyExists =>
      exact ⟨_, .created stage snap.flowRefName hvalid nofun,
        fun y _ => ⟨none, .delete y (hhandle.trans hid.symm), trivial⟩⟩

theorem proceeds_handleMessages (hname : PluginName snap.key.name) {msgs : List Message}
    (hmsgs : ∀ msg ∈ msgs, queues.Delivers snap.queueURL msg) :
    Proceeds lib queues (handleMessages lib snap msgs) := by
  induction msgs with
  | nil => exact .done _
  | cons msg rest ih =>
    refine .aside trivial fun ended _ => ?_
    cases ended with
    | true => exact .done _
    | false =>
      refine (proceeds_handleMessage hname (hmsgs msg List.mem_cons_self)).bind fun _ => ?_
      exact ih fun m hm => hmsgs m (List.mem_cons_of_mem _ hm)

theorem proceeds_retry {again : Bool → Duration → SqsProgram Unit}
    (hagain : ∀ established backoff, Proceeds lib queues (again established backoff))
    (err : String) (backoff : Duration) :
    Proceeds lib queues (retry opts snap err backoff again) := by
  refine .aside trivial fun ended _ => ?_
  cases ended with
  | true => exact .done _
  | false =>
    refine .aside trivial fun _ _ => .aside trivial fun slept _ => ?_
    cases slept with
    | true => exact hagain _ _
    | false => exact .done _

theorem proceeds_receive (hname : PluginName snap.key.name)
    {again : Bool → Duration → SqsProgram Unit}
    (hagain : ∀ established backoff, Proceeds lib queues (again established backoff))
    (backoff : Duration) : Proceeds lib queues (receive lib opts snap backoff again) := by
  refine .aside trivial fun answer hanswer => ?_
  cases answer with
  | error err => exact proceeds_retry hagain err backoff
  | ok messages =>
    refine (proceeds_handleMessages hname hanswer).bind fun finished => ?_
    cases finished with
    | true => exact hagain _ _
    | false => exact .done _

theorem proceeds_poll (hname : PluginName snap.key.name) (rounds : Nat) (established : Bool)
    (backoff : Duration) : Proceeds lib queues (poll lib opts snap rounds established backoff) := by
  induction rounds generalizing established backoff with
  | zero => exact .done _
  | succ rounds ih =>
    refine .aside trivial fun ended _ => ?_
    cases ended with
    | true => exact .done _
    | false =>
      cases established with
      | true => exact proceeds_receive hname ih backoff
      | false =>
        refine .aside trivial fun err _ => ?_
        cases err with
        | some err => exact proceeds_retry ih err backoff
        | none => exact .aside trivial fun _ _ => proceeds_receive hname ih opts.retryBase

end Follow

/-! ## Between the create and the delete -/

def World.Carried (lib : BrokerLib) (w : World) (origin : Origin) : Prop :=
  FlowRunStore.Has w.flowRuns origin.key (Built lib origin)

/-- The Trigger has a FlowRun of the message. -/
def World.Served (lib : BrokerLib) (queues : Queues) (w : World) (d : NamespacedName × String) :
    Prop :=
  ∃ origin : Origin, origin.trigger = d.1 ∧ origin.msg.messageId = some d.2 ∧
    origin.Valid queues ∧ w.Carried lib origin

structure World.Shared (lib : BrokerLib) (queues : Queues) (w : World) : Prop where
  coherent : FlowRunStore.Coherent (MadeFrom lib queues) w.flowRuns
  owned : FlowRunStore.Owned MessageName w.flowRuns
  deleted : ∀ d ∈ w.deleted, w.Served lib queues d

/-- Holds for a subscription that was told that the FlowRun is there. -/
def World.Tried (lib : BrokerLib) (queues : Queues) (w : World) : Option Origin → Prop
  | none => True
  | some origin => origin.Valid queues ∧ w.Carried lib origin

section Assertions

variable {lib : BrokerLib} {queues : Queues} {w w' : World}

theorem World.Tried.imp {stage : Option Origin} (h : w.Tried lib queues stage)
    (hmono : ∀ origin, w.Carried lib origin → w'.Carried lib origin) :
    w'.Tried lib queues stage := by
  cases stage with
  | none => trivial
  | some origin => exact ⟨h.1, hmono origin h.2⟩

theorem World.Served.imp {d : NamespacedName × String} (h : w.Served lib queues d)
    (hmono : ∀ origin, w.Carried lib origin → w'.Carried lib origin) : w'.Served lib queues d := by
  obtain ⟨origin, htrigger, hid, hvalid, hcarried⟩ := h
  exact ⟨origin, htrigger, hid, hvalid, hmono origin hcarried⟩

theorem env_aside {q : Req} {x : q.Reply} (henv : Req.env queues w q x w') (hq : q.Aside) :
    w' = w := by
  cases q with
  | create | deleteMessage => exact hq.elim
  | receiveMessage =>
    cases x with
    | error => exact henv
    | ok => exact henv.2
  | ctxErr | getQueueAttributes | sleep | setSession => exact henv

theorem carried_mono {q : Req} {x : q.Reply} (henv : Req.env queues w q x w') (origin : Origin)
    (h : w.Carried lib origin) : w'.Carried lib origin := by
  cases q with
  | create =>
    obtain ⟨flowRuns, hcreate, rfl⟩ := henv
    exact hcreate.has h
  | deleteMessage => exact henv ▸ h
  | receiveMessage | ctxErr | getQueueAttributes | sleep | setSession =>
    exact env_aside henv trivial ▸ h

theorem carried_of_held {origin : Origin} (hw : w.Shared lib queues) (horigin : origin.Valid queues)
    (hheld : (w.flowRuns.held origin.key).isSome) : w.Carried lib origin := by
  obtain ⟨origin', hmem⟩ := hw.owned _ horigin.messageName hheld
  obtain ⟨run, hrun, hkey, hvalid, href, hdata⟩ := hw.coherent.kept _ _ hmem
  have hsame := hvalid.same horigin hkey.symm
  refine ⟨run, hrun, ?_, ?_⟩
  · rw [href, hsame.1]
  · rw [hdata, hvalid.payload_eq horigin hsame]

theorem shared_create {origin : Origin} {flowRefName : String} {x : CreateReply}
    {flowRuns : FlowRunStore Origin} (hw : w.Shared lib queues) (horigin : origin.Valid queues)
    (hcreate : FlowRunStore.Create w.flowRuns origin (BuildFlowRun lib origin.trigger.namespace_
      origin.trigger.name flowRefName origin.msg) x flowRuns) :
    World.Shared lib queues { w with flowRuns := flowRuns } where
  coherent := hcreate.coherent hw.coherent ⟨rfl, horigin, rfl, rfl⟩
  owned := hw.owned.create hcreate
  deleted d hmem := (hw.deleted d hmem).imp fun _ h => hcreate.has h

theorem sqs_interference :
    Interference (Req.env queues) (Moves lib queues) (Req.Credible queues) (Subscribed lib)
      World.Others (World.Shared lib queues) (World.Tried lib queues) where
  honest w q x w' henv := by
    cases q with
    | receiveMessage =>
      cases x with
      | error => trivial
      | ok => exact henv.1
    | create | deleteMessage | ctxErr | getQueueAttributes | sleep | setSession => trivial
  start _ _ _ hp := by
    obtain ⟨s, t, rounds, -, hname, rfl⟩ := hp
    exact ⟨none, trivial, proceeds_poll hname rounds false _ none⟩
  own w stage q x w' stage' hshared htried henv hmove := by
    cases hmove with
    | aside stage x hq => exact env_aside henv hq ▸ ⟨hshared, htried⟩
    | created stage flowRefName horigin hx =>
      obtain ⟨flowRuns, hcreate, rfl⟩ := henv
      have hnext := shared_create hshared horigin hcreate
      exact ⟨hnext, horigin, carried_of_held hnext horigin (hcreate.held hx)⟩
    | failed stage flowRefName err horigin =>
      obtain ⟨flowRuns, hcreate, rfl⟩ := henv
      exact ⟨shared_create hshared horigin hcreate, trivial⟩
    | @delete origin queueURL receiptHandle x hhandle =>
      obtain rfl := henv
      refine ⟨⟨hshared.coherent, hshared.owned, ?_⟩, trivial⟩
      refine List.forall_mem_append.mpr ⟨hshared.deleted, ?_⟩
      intro d hmem
      obtain ⟨id, hid, rfl⟩ := List.mem_map.mp hmem
      rw [Option.mem_toList, hhandle] at hid
      exact ⟨origin, rfl, hid, htried.1, htried.2⟩
  others w stage q x w' _ _ _ htried _ henv _ := htried.imp (carried_mono henv)
  outside w w' hshared hothers := by
    obtain ⟨flowRuns, helse, rfl, hspares⟩ := hothers
    have hmono : ∀ origin, w.Carried lib origin →
        World.Carried lib { w with flowRuns := flowRuns } origin := fun _ h => helse.has h
    exact ⟨⟨helse.coherent hshared.coherent, hshared.owned.elsewhere helse hspares,
        fun d hmem => (hshared.deleted d hmem).imp hmono⟩,
      fun _ htried => htried.imp hmono⟩

end Assertions

/-! ## Messages and their FlowRuns -/

/-- However subscriptions, redeliveries and crashes interleave: a message for which
`DeleteMessage` is called has its FlowRun, and no message is made into two FlowRuns of a
Trigger. -/
theorem sqs_deleted_carried {lib : BrokerLib} {queues : Queues} {P : Pool World Req.Reply}
    (hrun : Runs lib queues ⟨.start, []⟩ P) :
    (∀ trigger id, (trigger, id) ∈ P.world.deleted → ∃ run payload, queues.sent id = some payload ∧
      P.world.flowRuns.held ⟨trigger.namespace_, FlowRunName trigger.name id⟩ = some run ∧
      run.spec.triggerRef = some ⟨trigger.name, .plugin⟩ ∧
      run.spec.triggerData = some (messageData lib payload)) ∧
    P.world.flowRuns.made.Pairwise fun a b => ¬ a.1.Same b.1 := by
  have hstart : Pool.Covered (Moves lib queues) (Req.Credible queues) (World.Shared lib queues)
      (World.Tried lib queues) ⟨World.start, []⟩ := ⟨⟨.empty, .empty, nofun⟩, nofun⟩
  obtain ⟨hshared, -⟩ := hstart.run sqs_interference hrun
  refine ⟨?_, ?_⟩
  · intro trigger id hmem
    obtain ⟨origin, rfl, hid, ⟨_, id', hid', hsent⟩, run, hheld, href, hdata⟩ :=
      hshared.deleted _ hmem
    cases hid.symm.trans hid'
    refine ⟨run, origin.msg.toPayload, hsent, ?_, href, hdata⟩
    rw [Origin.key, hid] at hheld
    exact hheld
  · exact hshared.coherent.distinct (fun _ _ _ hmade => hmade.1) fun _ _ hsame => hsame.key_eq

def orderIds : List String :=
  ["0f1e2d3c-4b5a-6978-8796-a5b4c3d2e1f0", "1f1e2d3c-4b5a-6978-8796-a5b4c3d2e1f0"]

/-- Two messages, each received under a handle of its own. -/
def orderMessages : List Message :=
  orderIds.map fun id => { messageId := some id, receiptHandle := "handle-" ++ id }

def orderQueues : Queues where
  sent id := if id ∈ orderIds then some {} else none
  uuids {id payload} h := by
    split at h
    next hmem =>
      have huuids : ∀ id ∈ orderIds, isUUID id := by decide
      exact huuids id hmem
    · cases h
  handles _ handle := orderIds.find? fun id => "handle-" ++ id = handle

theorem orderQueues_delivers (queueURL : String) :
    ∀ msg ∈ orderMessages, orderQueues.Delivers queueURL msg := by
  intro msg hmsg id hid _
  obtain ⟨id', hmem, rfl⟩ := List.mem_map.mp hmsg
  cases hid
  refine ⟨if_pos hmem, ?_⟩
  have hhandles : ∀ id ∈ orderIds,
      orderIds.find? (fun id' => "handle-" ++ id' = "handle-" ++ id) = some id := by decide
  exact hhandles _ hmem

def orderTrigger : Trigger where
  metadata := { name := ⟨"team", "orders"⟩ }
  spec := { type := .plugin, plugin := some ⟨"aws", [("queueUrl", "queue")]⟩, flowRef := "ship" }

def orderSubscriber : Subscriber := NewSubscriber "team" "aws" {}

def serveOrder (w : World) : (q : Req) → Option (q.Reply × World)
  | .ctxErr => some (false, w)
  | .getQueueAttributes _ => some (none, w)
  | .receiveMessage _ _ _ => some (.ok orderMessages, w)
  | .sleep _ => some (true, w)
  | .setSession .. => some ((), w)
  | .create origin run =>
    if (w.flowRuns.held run.metadata.name).isNone then
      some (.created, { w with flowRuns := w.flowRuns.create origin run.metadata.name run })
    else none
  | .deleteMessage trigger queueURL handle =>
    some (none, w.delete orderQueues trigger queueURL handle)

theorem serveOrder_env (w : World) (q : Req) (x : q.Reply) (w' : World)
    (h : serveOrder w q = some (x, w')) : Req.env orderQueues w q x w' := by
  cases q with
  | create origin run =>
    simp only [serveOrder] at h
    split at h
    · rename_i hfree
      cases h
      exact ⟨_, .created (Option.isNone_iff_eq_none.mp hfree), rfl⟩
    · cases h
  | receiveMessage =>
    cases h
    exact ⟨orderQueues_delivers _, rfl⟩
  | deleteMessage | ctxErr | getQueueAttributes | sleep | setSession => cases h; rfl

theorem orders_deleted_carried : ∃ P, Runs default orderQueues ⟨.start, []⟩ P ∧
    P.world.deleted = orderIds.map (Prod.mk orderTrigger.key) ∧
    ∃ run, P.world.flowRuns.held
        ⟨"team", FlowRunName "orders" "1f1e2d3c-4b5a-6978-8796-a5b4c3d2e1f0"⟩ = some run ∧
      run.spec.triggerRef = some ⟨"orders", .plugin⟩ := by
  have hsub : Subscribed default (subscription default orderSubscriber orderTrigger 1) :=
    ⟨orderSubscriber, orderTrigger, 1, by decide,
      ⟨by decide, by simp [orderTrigger, Trigger.key, NameRune]⟩, rfl⟩
  have hexec := Program.simulate_exec serveOrder_env .start
    (subscription default orderSubscriber orderTrigger 1)
  have hend : ((subscription default orderSubscriber orderTrigger 1).simulate serveOrder
      World.start).2.2 = some () := by decide
  rw [hend] at hexec
  have hdeleted : ((subscription default orderSubscriber orderTrigger 1).simulate serveOrder
      World.start).2.1.deleted = orderIds.map (Prod.mk orderTrigger.key) := by decide
  have hdone : Completes (Req.env orderQueues) .start
      (subscription default orderSubscriber orderTrigger 1) _ () := ⟨_, hexec⟩
  have hrun : Runs default orderQueues ⟨.start, []⟩ ⟨_, [.pure ()]⟩ :=
    (Relation.ReflTransGen.refl.tail (.spawn hsub)).trans (hdone.pool [])
  obtain ⟨run, _, -, hheld, href, -⟩ := (sqs_deleted_carried hrun).1 orderTrigger.key
    "1f1e2d3c-4b5a-6978-8796-a5b4c3d2e1f0" (by rw [hdeleted]; decide)
  exact ⟨_, hrun, hdeleted, run, hheld, href⟩

end KubeZap.AwsMessaging
