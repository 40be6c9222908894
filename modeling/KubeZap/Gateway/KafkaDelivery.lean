import KubeZap.Gateway.KafkaConsumer

/-! # What a marked message has become

A claim marks a message right after its attempt to create the FlowRun, whose name has
the Trigger, the partition and the offset in it. As long as a Trigger keeps to one topic
these can be read off the name again, so that a name which is taken was taken for the
same message. What a mark then means is said as an assertion that the claim holds between
the two calls, which survives whatever other claims and users do.
-/

namespace KubeZap

open Foundation

/-! ## The FlowRun of a message -/

def ConsumerMessage.SamePlace (msg msg' : ConsumerMessage) : Prop :=
  msg.topic = msg'.topic ∧ msg.partition = msg'.partition ∧ msg.offset = msg'.offset

namespace KafkaOrigin

def trigger (origin : KafkaOrigin) : NamespacedName :=
  ⟨origin.handler.triggerNamespace, origin.handler.triggerName⟩

def Same (origin origin' : KafkaOrigin) : Prop :=
  origin.trigger = origin'.trigger ∧ origin.message.SamePlace origin'.message

def key (origin : KafkaOrigin) : NamespacedName :=
  ⟨origin.handler.triggerNamespace, kafkaFlowRunName origin.handler origin.message⟩

theorem Same.key_eq {origin origin' : KafkaOrigin} (h : origin.Same origin') :
    origin.key = origin'.key := by
  obtain ⟨htrigger, -, hpartition, hoffset⟩ := h
  obtain ⟨hnamespace, hname⟩ := NamespacedName.mk.inj htrigger
  simp only [key, kafkaFlowRunName, hname, hnamespace, hpartition, hoffset]

/-- The Trigger keeps to its topic, and has a name without a dot that leaves room for the two
numbers. -/
structure Fit (topic : NamespacedName → String) (origin : KafkaOrigin) : Prop where
  name : PlainName 214 origin.handler.triggerName
  topic_eq : origin.message.topic = topic origin.trigger
  partition : 0 ≤ origin.message.partition ∧ origin.message.partition < 2 ^ 31
  offset : 0 ≤ origin.message.offset ∧ origin.message.offset < 2 ^ 63

end KafkaOrigin

/-- The names that are made of a Trigger's name, a partition and an offset. -/
def KafkaName (key : NamespacedName) : Prop :=
  ∃ (trigger : String) (partition offset : Int),
    key.name = trigger ++ "-p" ++ toString partition ++ "-offset-" ++ toString offset

namespace KafkaOrigin

variable {topic : NamespacedName → String} {origin origin' : KafkaOrigin}

theorem Fit.name_eq (h : origin.Fit topic) :
    origin.key.name = origin.handler.triggerName ++ "-p" ++ toString origin.message.partition ++
      "-offset-" ++ toString origin.message.offset := by
  obtain ⟨hname, -, ⟨hp, hplt⟩, ho, holt⟩ := h
  rw [toString_int hp, toString_int ho]
  simp only [key, kafkaFlowRunName, toString_int hp, toString_int ho, String.append_assoc]
  have hplen : (toString origin.message.partition.toNat).toList.length ≤ 10 :=
    nat_length (by decide) (by omega)
  have holen : (toString origin.message.offset.toNat).toList.length ≤ 19 :=
    nat_length (by decide) (by omega)
  refine hname.sanitize ?_ ?_
  · simp only [String.toList_append, List.forall_mem_append]
    exact ⟨by simp [NameRune], nameRune_nat _, by simp [NameRune], nameRune_nat _⟩
  · simp only [String.toList_append, List.length_append]
    change 214 + (2 + (_ + (8 + _))) ≤ 253
    omega

/-- The Trigger and the message can be read off the name. -/
theorem Fit.same (h : origin.Fit topic) (h' : origin'.Fit topic)
    (hkey : origin.key = origin'.key) : origin.Same origin' := by
  have hnamespace : origin.handler.triggerNamespace = origin'.handler.triggerNamespace :=
    congrArg NamespacedName.namespace_ hkey
  have hnames := congrArg NamespacedName.name hkey
  rw [h.name_eq, h'.name_eq, toString_int h.partition.1, toString_int h.offset.1,
    toString_int h'.partition.1, toString_int h'.offset.1] at hnames
  have hdash (s t : String) : s ++ "-offset-" ++ t = s ++ "-offset" ++ "-" ++ t := by
    simp only [String.append_assoc]
    rfl
  have hp (s t : String) : s ++ "-p" ++ t = s ++ "-" ++ ("p" ++ t) := by
    simp only [String.append_assoc]
    rfl
  rw [hdash, hdash] at hnames
  obtain ⟨hfront, hoffset⟩ := dash_inj (dash_notMem (nat_lowerAlnum _))
    (dash_notMem (nat_lowerAlnum _)) hnames
  have hfront := (String.append_left_inj _).mp hfront
  rw [hp, hp] at hfront
  have hnumber (n : Nat) : '-' ∉ ("p" ++ toString n).toList := by
    rw [String.toList_append, List.mem_append, not_or]
    exact ⟨by decide, dash_notMem (nat_lowerAlnum n)⟩
  obtain ⟨htrigger, hpartition⟩ := dash_inj (hnumber _) (hnumber _) hfront
  have hpartition := nat_text_inj ((String.append_right_inj _).mp hpartition)
  have hoffset := nat_text_inj hoffset
  have hsame : origin.trigger = origin'.trigger := NamespacedName.ext hnamespace htrigger
  refine ⟨hsame, ?_, ?_, ?_⟩
  · rw [h.topic_eq, h'.topic_eq, hsame]
  · have := h.partition.1
    have := h'.partition.1
    omega
  · have := h.offset.1
    have := h'.offset.1
    omega

end KafkaOrigin

/-- The FlowRun has the place and the payload of the message. -/
def Carries (lib : BytesLib) (msg : ConsumerMessage) (spec : FlowRunSpec) : Prop :=
  ∃ data, spec.triggerData = some data ∧ data.topic = msg.topic ∧ data.partition = msg.partition ∧
    data.offset = msg.offset ∧ (data.body, data.bodyEncoding) = encodePayload lib msg.value

theorem kafkaFlowRun_carries (lib : BrokerLib) (h : MessageHandler) (msg : ConsumerMessage)
    (traceparent : String) : Carries lib.toBytesLib msg (kafkaFlowRun lib h msg traceparent).spec :=
  ⟨_, rfl, rfl, rfl, rfl, rfl⟩

def MadeFrom (lib : BrokerLib) (log : BrokerLog) (claimed : KafkaOrigin → Prop)
    (origin : KafkaOrigin) (key : NamespacedName) (spec : FlowRunSpec) : Prop :=
  key = origin.key ∧ log.has origin.message ∧ claimed origin ∧
    Carries lib.toBytesLib origin.message spec

/-! ## The calls of a claim -/

/-- The stage is the message whose FlowRun the claim has just tried to create. -/
inductive KafkaMoves (lib : BrokerLib) (log : BrokerLog) (claimed : KafkaOrigin → Prop) :
    Protocol (Option KafkaOrigin) KafkaReq.Reply
  | startSpan (stage : Option KafkaOrigin) (upstream : Option String) (traceparent : String) :
      KafkaMoves lib log claimed stage (.startSpan upstream) traceparent stage
  | create (stage : Option KafkaOrigin) {h : MessageHandler} {msg : ConsumerMessage}
      (traceparent : String) (x : CreateReply) : log.has msg → claimed ⟨h, msg⟩ →
      KafkaMoves lib log claimed stage
        (.create ⟨h, msg⟩ (kafkaFlowRun lib h msg traceparent)) x (some ⟨h, msg⟩)
  | mark (origin : KafkaOrigin) : KafkaMoves lib log claimed (some origin) (.mark origin) () none

section Follow

variable {lib : BrokerLib} {log : BrokerLog} {claimed : KafkaOrigin → Prop} {h : MessageHandler}

theorem follows_handleMessage {msg : ConsumerMessage} (hmsg : log.has msg ∧ claimed ⟨h, msg⟩)
    (stage : Option KafkaOrigin) :
    Follows (KafkaMoves lib log claimed) (fun _ _ => True)
      (fun stage' _ => stage' = some ⟨h, msg⟩) stage (handleMessage lib h msg) := by
  intro traceparent _
  refine ⟨stage, .startSpan .., ?_⟩
  intro x _
  refine ⟨some ⟨h, msg⟩, .create stage traceparent x hmsg.1 hmsg.2, ?_⟩
  cases x <;> rfl

theorem follows_consumeClaim {msgs : List ConsumerMessage}
    (hmsgs : ∀ msg ∈ msgs, log.has msg ∧ claimed ⟨h, msg⟩) (stage : Option KafkaOrigin) :
    Follows (KafkaMoves lib log claimed) (fun _ _ => True) (fun _ _ => True) stage
      (consumeClaim lib h msgs) := by
  induction msgs generalizing stage with
  | nil => trivial
  | cons msg rest ih =>
    refine (follows_handleMessage (hmsgs msg List.mem_cons_self) stage).bind ?_
    rintro _ _ rfl
    intro _ _
    exact ⟨none, .mark _, ih (fun m hm => hmsgs m (List.mem_cons_of_mem _ hm)) none⟩

end Follow

/-! ## Between the create and the mark -/

/-- A `Create` that fails with an error other than AlreadyExists has stored its object, or another
had that name. -/
def KafkaReq.storing : Env KafkaWorld KafkaReq.Reply
  | w, .create origin run, x, w' => KafkaReq.env w (.create origin run) x w' ∧
      ∀ err, x = .failed err → (w'.flowRuns.held run.metadata.name).isSome
  | w, q, x, w' => KafkaReq.env w q x w'

/-- Others take no names of the gateway's. -/
def KafkaWorld.Sparing (w w' : KafkaWorld) : Prop :=
  w.Others w' ∧ FlowRunStore.Spares KafkaName w.flowRuns w'.flowRuns

theorem KafkaReq.storing_env {w w' : KafkaWorld} {q : KafkaReq} {x : q.Reply}
    (h : KafkaReq.storing w q x w') : KafkaReq.env w q x w' := by
  cases q with
  | create => exact h.1
  | startSpan | mark => exact h

def KafkaWorld.Carried (lib : BrokerLib) (w : KafkaWorld) (origin : KafkaOrigin) : Prop :=
  FlowRunStore.Has w.flowRuns origin.key (Carries lib.toBytesLib origin.message)

section Assertions

variable {lib : BrokerLib} {log : BrokerLog} {claimed : KafkaOrigin → Prop} {w w' : KafkaWorld}

/-- Holds of the cluster at any time. -/
structure KafkaWorld.Shared (lib : BrokerLib) (log : BrokerLog) (topic : NamespacedName → String)
    (w : KafkaWorld) : Prop where
  coherent : FlowRunStore.Coherent (MadeFrom lib log (KafkaOrigin.Fit topic)) w.flowRuns
  owned : FlowRunStore.Owned KafkaName w.flowRuns
  marked : ∀ origin ∈ w.marked, w.Carried lib origin

/-- Holds for a claim that has tried to create the FlowRun of a message. -/
def KafkaWorld.Tried (lib : BrokerLib) (w : KafkaWorld) : Option KafkaOrigin → Prop
  | none => True
  | some origin => w.Carried lib origin

variable {topic : NamespacedName → String}

/-- A FlowRun of the message's name is the one of this message. -/
theorem carried_of_held {origin : KafkaOrigin}
    (hw : FlowRunStore.Coherent (MadeFrom lib log (KafkaOrigin.Fit topic)) w.flowRuns)
    (howned : FlowRunStore.Owned KafkaName w.flowRuns) (hlog : log.has origin.message)
    (hfit : origin.Fit topic) (hheld : (w.flowRuns.held origin.key).isSome) :
    w.Carried lib origin := by
  obtain ⟨origin', hmem⟩ := howned _ ⟨_, _, _, hfit.name_eq⟩ hheld
  obtain ⟨run, hrun, hkey, hlog', hfit', hcarries⟩ := hw.kept _ _ hmem
  obtain ⟨-, htopic, hpartition, hoffset⟩ := hfit'.same hfit hkey.symm
  rw [log.unique hlog' hlog htopic hpartition hoffset] at hcarries
  exact ⟨run, hrun, hcarries⟩

theorem KafkaWorld.Tried.imp {stage : Option KafkaOrigin} (h : w.Tried lib stage)
    (hmono : ∀ origin, w.Carried lib origin → w'.Carried lib origin) : w'.Tried lib stage := by
  cases stage with
  | none => trivial
  | some origin => exact hmono origin h

theorem carried_mono {q : KafkaReq} {x : q.Reply} (henv : KafkaReq.env w q x w')
    (origin : KafkaOrigin) (h : w.Carried lib origin) : w'.Carried lib origin := by
  cases q with
  | startSpan | mark => exact henv ▸ h
  | create =>
    obtain ⟨flowRuns, hcreate, rfl⟩ := henv
    exact hcreate.has h

theorem KafkaReq.storing_held {origin : KafkaOrigin} {run : FlowRun} {x : CreateReply}
    (h : KafkaReq.storing w (.create origin run) x w') :
    (w'.flowRuns.held run.metadata.name).isSome := by
  obtain ⟨⟨flowRuns, hcreate, rfl⟩, hfailed⟩ := h
  cases x with
  | failed err => exact hfailed err rfl
  | created | alreadyExists => exact hcreate.held nofun

theorem kafka_interference :
    Interference KafkaReq.storing (KafkaMoves lib log (KafkaOrigin.Fit topic)) (fun _ _ => True)
      (log.Claims lib (KafkaOrigin.Fit topic)) KafkaWorld.Sparing
      (KafkaWorld.Shared lib log topic) (KafkaWorld.Tried lib) where
  honest _ _ _ _ _ := trivial
  start _ _ _ hp := by
    obtain ⟨h, msgs, hmsgs, rfl⟩ := hp
    exact ⟨none, trivial, follows_consumeClaim hmsgs none⟩
  own w stage q x w' stage' hshared htried hstep hmove := by
    have hmono : ∀ origin, w.Carried lib origin → w'.Carried lib origin :=
      carried_mono (KafkaReq.storing_env hstep)
    cases hmove with
    | startSpan =>
      obtain rfl := hstep
      exact ⟨hshared, htried⟩
    | @create _ h msg traceparent x hlog hfit =>
      have hheld := KafkaReq.storing_held hstep
      obtain ⟨⟨flowRuns, hcreate, rfl⟩, -⟩ := hstep
      have hcoherent := hcreate.coherent hshared.coherent
        ⟨rfl, hlog, hfit, kafkaFlowRun_carries lib h msg traceparent⟩
      have howned := hshared.owned.create hcreate
      exact ⟨⟨hcoherent, howned, fun origin hmem => hmono origin (hshared.marked origin hmem)⟩,
        carried_of_held hcoherent howned hlog hfit hheld⟩
    | mark origin =>
      obtain rfl := hstep
      exact ⟨⟨hshared.coherent, hshared.owned, List.forall_mem_append.mpr
        ⟨hshared.marked, List.forall_mem_singleton.mpr htried⟩⟩, trivial⟩
  others w stage q x w' _ _ _ htried _ hstep _ :=
    htried.imp (carried_mono (KafkaReq.storing_env hstep))
  outside w w' hshared hothers := by
    obtain ⟨⟨flowRuns, helse, rfl⟩, hspares⟩ := hothers
    have hmono : ∀ origin, w.Carried lib origin →
        ({ w with flowRuns := flowRuns } : KafkaWorld).Carried lib origin :=
      fun _ hcarried => helse.has hcarried
    exact ⟨⟨helse.coherent hshared.coherent, hshared.owned.elsewhere helse hspares,
        fun origin hmem => hmono origin (hshared.marked origin hmem)⟩,
      fun _ htried => htried.imp hmono⟩

/-- What was made from a message is there, whatever happens. -/
theorem made_interference :
    Interference KafkaReq.env (KafkaMoves lib log claimed) (fun _ _ => True)
      (log.Claims lib claimed) KafkaWorld.Others
      (fun w => FlowRunStore.Coherent (MadeFrom lib log claimed) w.flowRuns)
      (fun _ _ => True) where
  honest _ _ _ _ _ := trivial
  start _ _ _ hp := by
    obtain ⟨h, msgs, hmsgs, rfl⟩ := hp
    exact ⟨none, trivial, follows_consumeClaim hmsgs none⟩
  own w stage q x w' stage' hshared _ hstep hmove := by
    refine ⟨?_, trivial⟩
    cases hmove with
    | startSpan | mark =>
      obtain rfl := hstep
      exact hshared
    | @create _ h msg traceparent x hlog hclaimed =>
      obtain ⟨flowRuns, hcreate, rfl⟩ := hstep
      exact hcreate.coherent hshared
        ⟨rfl, hlog, hclaimed, kafkaFlowRun_carries lib h msg traceparent⟩
  others _ _ _ _ _ _ _ _ _ _ _ _ := trivial
  outside w w' hshared hothers := by
    obtain ⟨flowRuns, helse, rfl⟩ := hothers
    exact ⟨helse.coherent hshared, fun _ _ => trivial⟩

end Assertions

/-! ## Claims that can be carried out -/

section Runs

variable {lib : BrokerLib} {log : BrokerLog} {claimed : KafkaOrigin → Prop}
variable {env : Env KafkaWorld KafkaReq.Reply} {others : KafkaWorld → KafkaWorld → Prop}
variable {h : MessageHandler} {w w₁ w₂ w' : KafkaWorld}

theorem completes_consumeClaim {msg : ConsumerMessage} {rest : List ConsumerMessage}
    (traceparent : String) {x : CreateReply}
    (hspan : env w (.startSpan (kafkaTraceContext lib.toBytesLib msg)) traceparent w)
    (hcreate : env w (.create ⟨h, msg⟩ (kafkaFlowRun lib h msg traceparent)) x w₁)
    (hmark : env w₁ (.mark ⟨h, msg⟩) () w₂)
    (hrest : Completes env w₂ (consumeClaim lib h rest) w' ()) :
    Completes env w (consumeClaim lib h (msg :: rest)) w' () := by
  have hhandle : ∃ err, Completes env w (handleMessage lib h msg) w₁ err := by
    simp only [handleMessage, KafkaReq.send, completes_request]
    cases x with
    | created | alreadyExists => exact ⟨none, _, _, hspan, _, _, hcreate, by simp⟩
    | failed err => exact ⟨some err, _, _, hspan, _, _, hcreate, by simp⟩
  obtain ⟨err, hhandle⟩ := hhandle
  refine completes_bind.mpr ⟨err, w₁, hhandle, ?_⟩
  simp only [KafkaReq.send, completes_request]
  exact ⟨(), w₂, hmark, hrest⟩

theorem KafkaRuns.claim {P : Pool KafkaWorld KafkaReq.Reply} {ps : List (KafkaProgram Unit)}
    {msgs : List ConsumerMessage} (hrun : KafkaRuns lib log claimed env others P ⟨w, ps⟩)
    (hmsgs : ∀ msg ∈ msgs, log.has msg ∧ claimed ⟨h, msg⟩)
    (hclaim : Completes env w (consumeClaim lib h msgs) w' ()) :
    KafkaRuns lib log claimed env others P ⟨w', .pure () :: ps⟩ :=
  (hrun.tail (.spawn ⟨h, msgs, hmsgs, rfl⟩)).trans (hclaim.pool ps)

end Runs

/-! ## Messages and their FlowRuns -/

/-- However claims, failures and edits of Triggers interleave, no message is made into two FlowRuns
of a Trigger. Where every Trigger keeps to its topic, no `Create` fails for good and nobody else
takes names of the gateway's, a message that is marked has its FlowRun. -/
theorem kafka_marked_carried (lib : BrokerLib) (log : BrokerLog) :
    (∀ P, KafkaRuns lib log (fun _ => True) KafkaReq.env KafkaWorld.Others ⟨.start, []⟩ P →
      P.world.flowRuns.made.Pairwise fun a b => ¬ a.1.Same b.1) ∧
    ∀ topic P, KafkaRuns lib log (KafkaOrigin.Fit topic) KafkaReq.storing KafkaWorld.Sparing
        ⟨.start, []⟩ P →
      ∀ origin ∈ P.world.marked, ∃ run data, P.world.flowRuns.held origin.key = some run ∧
        run.spec.triggerData = some data ∧ data.topic = origin.message.topic ∧
        data.partition = origin.message.partition ∧ data.offset = origin.message.offset ∧
        (data.body, data.bodyEncoding) = encodePayload lib.toBytesLib origin.message.value := by
  refine ⟨fun P hrun => ?_, fun topic P hrun origin hmem => ?_⟩
  · have hstart : Pool.Covered (KafkaMoves lib log fun _ => True) (fun _ _ => True)
        (fun w => FlowRunStore.Coherent (MadeFrom lib log fun _ => True) w.flowRuns)
        (fun _ _ => True) ⟨KafkaWorld.start, []⟩ := ⟨.empty, nofun⟩
    obtain ⟨hcoherent, -⟩ := hstart.run made_interference hrun
    exact hcoherent.distinct (fun _ _ _ hmade => hmade.1) fun _ _ hsame => hsame.key_eq
  · have hstart : Pool.Covered (KafkaMoves lib log (KafkaOrigin.Fit topic)) (fun _ _ => True)
        (KafkaWorld.Shared lib log topic) (KafkaWorld.Tried lib) ⟨KafkaWorld.start, []⟩ :=
      ⟨⟨.empty, .empty, nofun⟩, nofun⟩
    obtain ⟨hshared, -⟩ := hstart.run kafka_interference hrun
    obtain ⟨run, hheld, data, hdata⟩ := hshared.marked origin hmem
    exact ⟨run, data, hheld, hdata⟩

def orderHandler : MessageHandler := ⟨"orders", "team", "ship"⟩

def orderMessage (topic : String) (offset : Int) : ConsumerMessage where
  topic := topic
  partition := 0
  offset := offset
  value := []

def orderOrigin (topic : String) (offset : Int) : KafkaOrigin :=
  ⟨orderHandler, orderMessage topic offset⟩

def orderLog : BrokerLog where
  has msg := msg ∈ [orderMessage "orders" 7, orderMessage "orders" 8, orderMessage "returns" 7]
  unique {msg msg'} hmsg hmsg' := by
    revert msg'
    revert msg
    decide

def orderStore : FlowRunStore KafkaOrigin :=
  NamedStore.empty.create (orderOrigin "orders" 7) (orderOrigin "orders" 7).key
    (kafkaFlowRun default orderHandler (orderMessage "orders" 7) "")

theorem order_fit {offset : Int} (h : 0 ≤ offset ∧ offset < 2 ^ 63) :
    (orderOrigin "orders" offset).Fit fun _ => "orders" where
  name := ⟨show orderHandler.triggerName.toList.length ≤ 214 by decide,
    by simp [orderOrigin, orderHandler, NameRune]⟩
  topic_eq := rfl
  partition := ⟨Int.le_refl 0, show (0 : Int) < 2 ^ 31 by decide⟩
  offset := h

/-- A claim of two messages, the first of which is then claimed once more. -/
theorem order_marked_carried :
    ∃ P, KafkaRuns default orderLog (KafkaOrigin.Fit fun _ => "orders") KafkaReq.storing
        KafkaWorld.Sparing ⟨.start, []⟩ P ∧
      P.world.marked = [orderOrigin "orders" 7, orderOrigin "orders" 8, orderOrigin "orders" 7] ∧
      ∃ run data, P.world.flowRuns.held ⟨"team", "orders-p0-offset-8"⟩ = some run ∧
        run.spec.triggerData = some data ∧ data.topic = "orders" ∧ data.partition = 0 ∧
        data.offset = 8 := by
  let w : KafkaWorld := ⟨orderStore.create (orderOrigin "orders" 8) (orderOrigin "orders" 8).key
      (kafkaFlowRun default orderHandler (orderMessage "orders" 8) ""),
    [orderOrigin "orders" 7, orderOrigin "orders" 8]⟩
  have hclaim : Completes KafkaReq.storing .start
      (consumeClaim default orderHandler [orderMessage "orders" 7, orderMessage "orders" 8]) w () :=
    completes_consumeClaim "" (x := .created) rfl ⟨⟨_, .created rfl, rfl⟩, nofun⟩ rfl
      (completes_consumeClaim "" (x := .created) rfl
        ⟨⟨_, .created (s := orderStore) (by decide), rfl⟩, nofun⟩ rfl
        (completes_pure.mpr ⟨rfl, rfl⟩))
  have hagain : Completes KafkaReq.storing w
      (consumeClaim default orderHandler [orderMessage "orders" 7])
      { w with marked := w.marked ++ [orderOrigin "orders" 7] } () :=
    completes_consumeClaim "" (x := .alreadyExists) rfl
      ⟨⟨w.flowRuns, .alreadyExists (by decide), rfl⟩, nofun⟩ rfl (completes_pure.mpr ⟨rfl, rfl⟩)
  have hfit (msg : ConsumerMessage) (hmsg : msg = orderMessage "orders" 7 ∨
      msg = orderMessage "orders" 8) :
      orderLog.has msg ∧ KafkaOrigin.Fit (fun _ => "orders") ⟨orderHandler, msg⟩ := by
    rcases hmsg with rfl | rfl
    · exact ⟨by simp [orderLog], order_fit (by decide)⟩
    · exact ⟨by simp [orderLog], order_fit (by decide)⟩
  have hfirst : KafkaRuns default orderLog (KafkaOrigin.Fit fun _ => "orders") KafkaReq.storing
      KafkaWorld.Sparing ⟨.start, []⟩ ⟨w, [.pure ()]⟩ :=
    KafkaRuns.claim .refl (by simpa using hfit) hclaim
  have hrun := hfirst.claim (fun msg h => hfit msg (.inl (List.mem_singleton.mp h))) hagain
  obtain ⟨run, data, hheld, hdata, htopic, hpartition, hoffset, -⟩ :=
    (kafka_marked_carried default orderLog).2 _ _ hrun (orderOrigin "orders" 8)
      (by simp [w])
  exact ⟨_, hrun, rfl, run, data, hheld, hdata, htopic, hpartition, hoffset⟩

/-- The FlowRun of offset 8 could not be created, and the Trigger then went on with another topic:
three messages are marked, and there is the FlowRun of the first alone. -/
theorem orders_lost : ∃ P, KafkaRuns default orderLog (fun _ => True) KafkaReq.env
      KafkaWorld.Others ⟨.start, []⟩ P ∧
    P.world.marked = [orderOrigin "orders" 7, orderOrigin "orders" 8, orderOrigin "returns" 7] ∧
    ∀ key run data, P.world.flowRuns.held key = some run → run.spec.triggerData = some data →
      data.topic = "orders" ∧ data.offset = 7 := by
  have horders : Completes KafkaReq.env .start
      (consumeClaim default orderHandler [orderMessage "orders" 7, orderMessage "orders" 8])
      ⟨orderStore, [orderOrigin "orders" 7, orderOrigin "orders" 8]⟩ () :=
    completes_consumeClaim "" (x := .created) rfl ⟨_, .created rfl, rfl⟩ rfl
      (completes_consumeClaim "" (x := .failed "timeout") rfl ⟨_, .failed _, rfl⟩ rfl
        (completes_pure.mpr ⟨rfl, rfl⟩))
  -- the name of the next message has no topic in it
  have htaken : (orderStore.held
      (kafkaFlowRun default orderHandler (orderMessage "returns" 7) "").metadata.name).isSome := by
    simp [orderStore, orderOrigin, NamedStore.create, KafkaOrigin.key, kafkaFlowRun,
      triggeredFlowRun, kafkaFlowRunName, orderMessage]
  have hreturns : Completes KafkaReq.env
      ⟨orderStore, [orderOrigin "orders" 7, orderOrigin "orders" 8]⟩
      (consumeClaim default orderHandler [orderMessage "returns" 7])
      ⟨orderStore, [orderOrigin "orders" 7, orderOrigin "orders" 8, orderOrigin "returns" 7]⟩ () :=
    completes_consumeClaim "" (x := .alreadyExists) rfl ⟨_, .alreadyExists htaken, rfl⟩ rfl
      (completes_pure.mpr ⟨rfl, rfl⟩)
  refine ⟨_, (KafkaRuns.claim .refl (by simp [orderLog]) horders).claim (by simp [orderLog]) hreturns,
    rfl, ?_⟩
  intro key run data hheld hdata
  simp only [orderStore, NamedStore.create, Function.update_apply] at hheld
  split_ifs at hheld
  · cases hheld
    cases hdata
    exact ⟨rfl, rfl⟩
  · cases hheld

end KubeZap
