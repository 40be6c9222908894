import KubeZap.Gateway.NatsConsumer

/-! # What an acknowledged message of a stream has become

A delivery is acknowledged when a FlowRun of its name is there, and the name has the
consumer's number of the delivery in it. What is proved here is what that number would
have to be: the same whenever the message is delivered to the Trigger, and no other
message's.
-/

namespace KubeZap.Nats

open Foundation Function

/-! ## The FlowRun of a message -/

def Msg.place (msg : Msg) : Option StreamPlace := msg.metadata.toOption.map (·.place)

def Origin.Same (origin origin' : Origin) : Prop :=
  origin.handler.trigger = origin'.handler.trigger ∧
    ∃ place, origin.msg.place = some place ∧ origin'.msg.place = some place

def Msg.Stored (streams : Streams) (msg : Msg) : Prop :=
  ∃ place, msg.place = some place ∧ streams place = some msg.toPayload

def Carries (lib : BrokerLib) (payload : Payload) (spec : FlowRunSpec) : Prop :=
  ∃ data, spec.triggerData = some data ∧ data.topic = payload.subject ∧
    data.body = storedText lib.toBytesLib payload.data ∧
    data.headers = redactHeaders lib.toLower payload.header []

theorem Msg.place_of_metadata {msg : Msg} {md : MsgMetadata} (h : msg.metadata = .ok md) :
    msg.place = some md.place := by
  simp [Msg.place, h, Except.toOption]

theorem Msg.Stored.isSome {streams : Streams} {msg : Msg} {md : MsgMetadata}
    (h : msg.Stored streams) (hmd : msg.metadata = .ok md) : (streams md.place).isSome := by
  obtain ⟨place, hplace, hstored⟩ := h
  cases (Msg.place_of_metadata hmd).symm.trans hplace
  rw [hstored]
  rfl

theorem Msg.Stored.payload_eq {streams : Streams} {msg msg' : Msg} {place : StreamPlace}
    (h : msg.Stored streams) (h' : msg'.Stored streams) (hplace : msg.place = some place)
    (hplace' : msg'.place = some place) : msg.toPayload = msg'.toPayload := by
  obtain ⟨p, hp, hstored⟩ := h
  obtain ⟨p', hp', hstored'⟩ := h'
  cases hplace.symm.trans hp
  cases hplace'.symm.trans hp'
  exact Option.some.inj (hstored.symm.trans hstored')

/-! ## The names of deliveries -/

/-- A name without a dot that leaves room for a number, or for a time and random digits. -/
abbrev NumberedName (triggerName : String) : Prop := PlainName 222 triggerName

/-- The names that are made of a Trigger's name and the number of a delivery. -/
def NatsName (key : NamespacedName) : Prop :=
  ∃ (trigger : String) (sequence : Nat), key.name = trigger ++ "-seq-" ++ toString sequence

def Stamp (x : Time × Bytes) : Prop := 0 ≤ x.1 ∧ x.1 < 2 ^ 63 ∧ x.2.length = 4

section Names

variable {h h' : MessageHandler} {md md' : MsgMetadata}

theorem jetStreamRunName_eq (hname : NumberedName h.triggerName)
    (hmd : md.consumerSequence < 2 ^ 64) :
    jetStreamRunName h md = h.triggerName ++ "-seq-" ++ toString md.consumerSequence := by
  have hlength : (toString md.consumerSequence).toList.length ≤ 20 :=
    nat_length (by decide) (by omega)
  rw [jetStreamRunName, String.append_assoc]
  refine hname.sanitize ?_ ?_
  · simp only [String.toList_append, List.forall_mem_append]
    exact ⟨by simp [NameRune], nameRune_nat _⟩
  · rw [String.toList_append, List.length_append]
    change 222 + (5 + _) ≤ 253
    omega

theorem seq_split (s t : String) : s ++ "-seq-" ++ t = s ++ "-" ++ "seq" ++ "-" ++ t := by
  simp only [String.append_assoc]
  rfl

theorem jetStreamRunName_inj (hname : NumberedName h.triggerName)
    (hname' : NumberedName h'.triggerName) (hmd : md.consumerSequence < 2 ^ 64)
    (hmd' : md'.consumerSequence < 2 ^ 64) (heq : jetStreamRunName h md = jetStreamRunName h' md') :
    h.triggerName = h'.triggerName ∧ md.consumerSequence = md'.consumerSequence := by
  rw [jetStreamRunName_eq hname hmd, jetStreamRunName_eq hname' hmd', seq_split, seq_split] at heq
  obtain ⟨hfront, hnumber⟩ := dash_inj (dash_notMem (nat_lowerAlnum _))
    (dash_notMem (nat_lowerAlnum _)) heq
  have htrigger := (dash_inj (by decide) (by decide) hfront).1
  exact ⟨htrigger, nat_text_inj hnumber⟩

theorem coreRunName_eq {x : Time × Bytes} (hname : NumberedName h.triggerName) (hx : Stamp x) :
    coreRunName h x.1 x.2 = h.triggerName ++ "-" ++ toString x.1.toNat ++ "-" ++
      String.ofList (hexDigits x.2) := by
  obtain ⟨hnow, hlt, hrandom⟩ := hx
  have hsmall (t : Int) (ht : t < 2 ^ 63) : t.toNat < 10 ^ 19 := by omega
  have hlength : (toString x.1.toNat).toList.length ≤ 19 := nat_length (by decide) (hsmall _ hlt)
  have hdigits := hexDigits_length x.2
  simp only [coreRunName, toString_int hnow, String.append_assoc]
  refine hname.sanitize ?_ ?_
  · simp only [String.toList_append, List.forall_mem_append, String.toList_ofList]
    exact ⟨by simp [NameRune], nameRune_nat _, by simp [NameRune],
      fun c hc => .of_lowerAlnum (hexDigits_lowerAlnum x.2 c hc)⟩
  · simp only [String.toList_append, List.length_append, String.toList_ofList]
    change 222 + (1 + (_ + (1 + _))) ≤ 253
    omega

/-- A name with a time in it has a number where a name of JetStream has a word. -/
theorem coreRunName_ne {x : Time × Bytes} (hname : NumberedName h.triggerName) (hx : Stamp x)
    {trigger : String} {sequence : Nat} :
    coreRunName h x.1 x.2 ≠ trigger ++ "-seq-" ++ toString sequence := by
  rw [coreRunName_eq hname hx, seq_split]
  intro heq
  obtain ⟨hfront, -⟩ := dash_inj
    (dash_notMem (by rw [String.toList_ofList]; exact hexDigits_lowerAlnum x.2))
    (dash_notMem (nat_lowerAlnum _)) heq
  have hword := (dash_inj (dash_notMem (nat_lowerAlnum _)) (by decide) hfront).2
  have hdigit : 's'.isDigit := by
    refine Nat.isDigit_of_mem_toDigits (b := 10) (n := x.1.toNat) (by decide) (by decide) ?_
    rw [← Nat.toList_repr, ← Nat.toString_eq_repr, hword]
    decide
  cases hdigit

end Names

/-! ## Numbers of one's own -/

/-- Under which number a message is delivered to a Trigger; no two messages have the same. -/
structure Numbering (streams : Streams) where
  sequence : NamespacedName → StreamPlace → Nat
  injective : ∀ trigger place place', (streams place).isSome → (streams place').isSome →
    sequence trigger place = sequence trigger place' → place = place'

/-- Every delivery of a message has the number of the message, the clock and the random bytes are
in range, and the client can send what tells the server of a failure. -/
def Req.Numbered {streams : Streams} (numbering : Numbering streams) : (q : Req) → q.Reply → Prop
  | .receive h, msg => ∀ md, msg.metadata = .ok md → md.consumerSequence < 2 ^ 64 ∧
      md.consumerSequence = numbering.sequence h.trigger md.place
  | .stamp, x => Stamp x
  | .nak _, err => err = none
  | _, _ => True

def Req.numbered (streams : Streams) (numbering : Numbering streams) : Env World Req.Reply :=
  fun w q x w' => Req.Step streams w q x w' ∧ Req.Numbered numbering q x

/-- Others take no names of the gateway's. -/
def World.Sparing (w w' : World) : Prop :=
  w.Others w' ∧ FlowRunStore.Spares NatsName w.flowRuns w'.flowRuns

/-- What a JetStream subscription is delivered is a message of a stream; another subscription is
delivered messages of none. -/
def Req.Credible (streams : Streams) (numbering : Numbering streams) (q : Req) (x : q.Reply) : Prop :=
  Req.Numbered numbering q x ∧
  match q, x with
  | .receive h, msg => if h.isJetStream then msg.Stored streams else msg.place = none
  | _, _ => True

variable {streams : Streams} {numbering : Numbering streams}

theorem stored_of_credible {h : MessageHandler} {msg : Msg}
    (hmsg : Req.Credible streams numbering (.receive h) msg) (hjs : h.isJetStream) :
    msg.Stored streams := by
  simpa only [hjs, if_true] using hmsg.2

theorem jetStream_of_place {h : MessageHandler} {msg : Msg} {place : StreamPlace}
    (hmsg : Req.Credible streams numbering (.receive h) msg) (hplace : msg.place = some place) :
    h.isJetStream := by
  by_contra hcore
  have hnone : msg.place = none := by simpa [hcore] using hmsg.2
  cases hnone.symm.trans hplace

theorem credible_step : (Req.numbered streams numbering).Credible
    (Req.Credible streams numbering) := by
  intro w q x w' hstep
  refine ⟨hstep.2, ?_⟩
  cases hstep.1 with
  | jetStream hjs hstored =>
    simp only [hjs, if_true]
    exact ⟨_, rfl, hstored⟩
  | core payload err hcore =>
    simp only [hcore]
    rfl
  | stamp | create | ack | ackLost | nak => trivial

/-- The name that the handler gives to the FlowRun of a message. -/
def Names (h : MessageHandler) (msg : Msg) (name : String) : Prop :=
  if h.isJetStream then ∃ md, msg.metadata = .ok md ∧ name = jetStreamRunName h md
  else ∃ x, Stamp x ∧ name = coreRunName h x.1 x.2

structure MadeFrom (lib : BrokerLib) (streams : Streams) (numbering : Numbering streams) (origin : Origin)
    (key : NamespacedName) (spec : FlowRunSpec) : Prop where
  trigger : NumberedName origin.handler.triggerName
  msg : Req.Credible streams numbering (.receive origin.handler) origin.msg
  namespace_eq : key.namespace_ = origin.handler.triggerNamespace
  names : Names origin.handler origin.msg key.name
  carries : Carries lib origin.msg.toPayload spec

section Made

variable {lib : BrokerLib} {origin origin' : Origin} {key key' : NamespacedName}
variable {spec spec' : FlowRunSpec}

theorem MadeFrom.jetStream (h : MadeFrom lib streams numbering origin key spec)
    (hjs : origin.handler.isJetStream) :
    ∃ md, origin.msg.metadata = .ok md ∧ md.consumerSequence < 2 ^ 64 ∧
      md.consumerSequence = numbering.sequence origin.handler.trigger md.place ∧
      key.name = jetStreamRunName origin.handler md := by
  have hnames := h.names
  rw [Names, if_pos hjs] at hnames
  obtain ⟨md, hmd, hname⟩ := hnames
  obtain ⟨hlt, hseq⟩ := h.msg.1 md hmd
  exact ⟨md, hmd, hlt, hseq, hname⟩

/-- What was made under a name of JetStream was made from the message of its number. -/
theorem MadeFrom.same (h : MadeFrom lib streams numbering origin key spec)
    (h' : MadeFrom lib streams numbering origin' key spec') (hjs' : origin'.handler.isJetStream) :
    origin.Same origin' := by
  obtain ⟨md', hmd', hlt', hseq', hname'⟩ := h'.jetStream hjs'
  have hjs : origin.handler.isJetStream := by
    by_contra hcore
    have hnames := h.names
    rw [Names, if_neg hcore] at hnames
    obtain ⟨x, hx, hname⟩ := hnames
    rw [hname', jetStreamRunName_eq h'.trigger hlt'] at hname
    exact coreRunName_ne h.trigger hx hname.symm
  obtain ⟨md, hmd, hlt, hseq, hname⟩ := h.jetStream hjs
  obtain ⟨htrigger, hsequence⟩ :=
    jetStreamRunName_inj h.trigger h'.trigger hlt hlt' (hname.symm.trans hname')
  have htrigger : origin.handler.trigger = origin'.handler.trigger :=
    NamespacedName.ext (h.namespace_eq.symm.trans h'.namespace_eq) htrigger
  rw [hseq, hseq', htrigger] at hsequence
  have hplace := numbering.injective _ _ _ ((stored_of_credible h.msg hjs).isSome hmd)
    ((stored_of_credible h'.msg hjs').isSome hmd') hsequence
  exact ⟨htrigger, md'.place, hplace ▸ Msg.place_of_metadata hmd, Msg.place_of_metadata hmd'⟩

theorem MadeFrom.key_eq (h : MadeFrom lib streams numbering origin key spec)
    (h' : MadeFrom lib streams numbering origin' key' spec') (hsame : origin.Same origin') :
    key = key' := by
  obtain ⟨htrigger, place, hplace, hplace'⟩ := hsame
  obtain ⟨md, hmd, hlt, hseq, hname⟩ := h.jetStream (jetStream_of_place h.msg hplace)
  obtain ⟨md', hmd', hlt', hseq', hname'⟩ := h'.jetStream (jetStream_of_place h'.msg hplace')
  have hmp : md.place = place := Option.some.inj ((Msg.place_of_metadata hmd).symm.trans hplace)
  have hmp' : md'.place = place :=
    Option.some.inj ((Msg.place_of_metadata hmd').symm.trans hplace')
  obtain ⟨hnamespace, htriggerName⟩ := NamespacedName.mk.inj htrigger
  refine NamespacedName.ext ?_ ?_
  · rw [h.namespace_eq, h'.namespace_eq, hnamespace]
  · rw [hname, hname', jetStreamRunName, jetStreamRunName, htriggerName, hseq, hseq', htrigger,
      hmp, hmp']

end Made

/-! ## The calls of a delivery -/

/-- The stage is the message whose FlowRun is there, as the server has said. -/
inductive Moves (lib : BrokerLib) (streams : Streams) (numbering : Numbering streams) :
    Protocol (Option Origin) Req.Reply
  | receive (stage : Option Origin) (h : MessageHandler) (msg : Msg) :
      Moves lib streams numbering stage (.receive h) msg none
  | stamp (stage : Option Origin) (x : Time × Bytes) :
      Moves lib streams numbering stage .stamp x stage
  | created (stage : Option Origin) {origin : Origin} {run : FlowRun} {x : CreateReply} :
      MadeFrom lib streams numbering origin run.metadata.name run.spec →
      (∀ err, x ≠ .failed err) →
      Moves lib streams numbering stage (.create origin run) x (some origin)
  | failed (stage : Option Origin) {origin : Origin} {run : FlowRun} (err : String) :
      MadeFrom lib streams numbering origin run.metadata.name run.spec →
      Moves lib streams numbering stage (.create origin run) (.failed err) none
  | ack {origin : Origin} (x : Option String) : origin.handler.isJetStream →
      Moves lib streams numbering (some origin) (.ack origin) x (some origin)
  | nak (stage : Option Origin) (origin : Origin) (x : Option String) :
      Moves lib streams numbering stage (.nak origin) x stage

section Follow

variable {lib : BrokerLib} {h : MessageHandler} {msg : Msg}

theorem follows_flowRunName (stage : Option Origin) :
    Follows (Moves lib streams numbering) (Req.Credible streams numbering)
      (fun _ name => ∀ n, name = .ok n → Names h msg n) stage (flowRunName h msg) := by
  unfold flowRunName Names
  split
  · split
    · exact nofun
    next md hmd =>
      rintro _ ⟨⟩
      exact ⟨md, hmd, rfl⟩
  · intro x hx
    refine ⟨stage, .stamp stage x, ?_⟩
    rintro _ ⟨⟩
    exact ⟨x, hx.1, rfl⟩

theorem follows_handleMessage (hname : NumberedName h.triggerName)
    (hmsg : Req.Credible streams numbering (.receive h) msg) (stage : Option Origin) :
    Follows (Moves lib streams numbering) (Req.Credible streams numbering)
      (fun stage' err => err = none → stage' = some ⟨h, msg⟩) stage (handleMessage lib h msg) := by
  refine (follows_flowRunName stage).bind ?_
  intro stage' name hnames
  cases name with
  | error err => exact nofun
  | ok name =>
    have hmade : MadeFrom lib streams numbering ⟨h, msg⟩
        (natsFlowRun lib h msg name).metadata.name (natsFlowRun lib h msg name).spec :=
      ⟨hname, hmsg, rfl, hnames name rfl, _, rfl, rfl, rfl, rfl⟩
    intro x _
    cases x with
    | created | alreadyExists => exact ⟨_, .created stage' hmade nofun, fun _ => rfl⟩
    | failed err => exact ⟨_, .failed stage' err hmade, nofun⟩

/-- What `nats.go` finds without an acknowledgement has its FlowRun. -/
theorem follows_onMessage (hname : NumberedName h.triggerName)
    (hmsg : Req.Credible streams numbering (.receive h) msg) (stage : Option Origin) :
    Follows (Moves lib streams numbering) (Req.Credible streams numbering)
      (fun stage' sent => h.isJetStream → sent = false → stage' = some ⟨h, msg⟩) stage
      (onMessage lib h msg) := by
  refine (follows_handleMessage hname hmsg stage).bind ?_
  intro stage' err hdone
  by_cases hjs : h.isJetStream
  · cases err with
    | some err =>
      simp only [hjs, if_true]
      intro x hx
      have hsent : x = none := hx.1
      subst hsent
      exact ⟨stage', .nak stage' ⟨h, msg⟩ none, fun _ => nofun⟩
    | none =>
      simp only [hjs, if_true, hdone rfl]
      exact fun x _ => ⟨_, .ack x hjs, fun _ _ => rfl⟩
  · cases err <;> simp only [hjs] <;> exact nofun

theorem follows_delivery (hname : NumberedName h.triggerName) (stage : Option Origin) :
    Follows (Moves lib streams numbering) (Req.Credible streams numbering) (fun _ _ => True) stage
      (delivery lib h) := by
  intro msg hmsg
  refine ⟨none, .receive stage h msg, (follows_onMessage hname hmsg none).bind ?_⟩
  intro stage' sent hsent
  split
  next hauto =>
    obtain ⟨hjs, hfalse⟩ : h.isJetStream ∧ sent = false := by simpa using hauto
    rw [hsent hjs hfalse]
    exact fun x _ => ⟨_, .ack x hjs, trivial⟩
  · trivial

end Follow

/-! ## Deliveries that are numbered -/

def World.Served (w : World) (origin : Origin) : Prop :=
  ∃ origin' key, (origin', key) ∈ w.flowRuns.made ∧ origin'.Same origin

variable {origin : Origin}

theorem World.Served.mono {w w' : World} (h : w.Served origin)
    (hmade : w.flowRuns.made ⊆ w'.flowRuns.made) : w'.Served origin := by
  obtain ⟨origin', key, hmem, hsame⟩ := h
  exact ⟨origin', key, hmade hmem, hsame⟩

section Assertions

variable {lib : BrokerLib} {w w' : World}

/-- Holds of the cluster at any time. -/
structure World.Shared (lib : BrokerLib) (streams : Streams) (numbering : Numbering streams) (w : World) :
    Prop where
  coherent : FlowRunStore.Coherent (MadeFrom lib streams numbering) w.flowRuns
  owned : FlowRunStore.Owned NatsName w.flowRuns
  acked : ∀ origin ∈ w.acked, origin.msg.Stored streams ∧ w.Served origin

def World.Tried (streams : Streams) (w : World) : Option Origin → Prop
  | none => True
  | some origin => origin.handler.isJetStream → origin.msg.Stored streams ∧ w.Served origin

theorem World.Tried.mono {stage : Option Origin} (h : w.Tried streams stage)
    (hmade : w.flowRuns.made ⊆ w'.flowRuns.made) : w'.Tried streams stage := by
  cases stage with
  | none => trivial
  | some origin =>
    intro hjs
    obtain ⟨hstored, hserved⟩ := h hjs
    exact ⟨hstored, hserved.mono hmade⟩

theorem made_step {q : Req} {x : q.Reply} (hstep : Req.Step streams w q x w') :
    w.flowRuns.made ⊆ w'.flowRuns.made := by
  cases hstep with
  | create hcreate => exact hcreate.made
  | jetStream | core | stamp | ack | ackLost | nak => exact List.Subset.refl _

theorem made_others (hothers : w.Others w') : w'.flowRuns.made = w.flowRuns.made := by
  cases hothers with
  | flowRuns helse => exact helse.made
  | recreate => rfl

variable {flowRuns : FlowRunStore Origin} {run : FlowRun} {x : CreateReply}

theorem World.Shared.create (h : w.Shared lib streams numbering)
    (hmade : MadeFrom lib streams numbering origin run.metadata.name run.spec)
    (hcreate : FlowRunStore.Create w.flowRuns origin run x flowRuns) :
    World.Shared lib streams numbering { w with flowRuns := flowRuns } where
  coherent := hcreate.coherent h.coherent hmade
  owned := h.owned.create hcreate
  acked origin hmem := ⟨(h.acked origin hmem).1, (h.acked origin hmem).2.mono hcreate.made⟩

theorem World.Shared.served (h : w.Shared lib streams numbering) {key : NamespacedName}
    {spec : FlowRunSpec} (hmade : MadeFrom lib streams numbering origin key spec)
    (hjs : origin.handler.isJetStream) (hheld : (w.flowRuns.held key).isSome) :
    w.Served origin := by
  obtain ⟨md, -, hlt, -, hname⟩ := hmade.jetStream hjs
  obtain ⟨origin', hmem⟩ :=
    h.owned _ ⟨_, _, hname.trans (jetStreamRunName_eq hmade.trigger hlt)⟩ hheld
  obtain ⟨_, -, hmade'⟩ := h.coherent.kept _ _ hmem
  exact ⟨origin', key, hmem, hmade'.same hmade hjs⟩

theorem nats_interference :
    Interference (Req.numbered streams numbering) (Moves lib streams numbering)
      (Req.Credible streams numbering) (Subscribed lib NumberedName) World.Sparing
      (World.Shared lib streams numbering) (World.Tried streams) where
  honest := credible_step
  start _ _ _ hp := by
    obtain ⟨h, hname, rfl⟩ := hp
    exact ⟨none, trivial, follows_delivery hname none⟩
  own w stage q x w' stage' hshared htried hstep hmove := by
    cases hmove with
    | receive stage h msg =>
      refine ⟨?_, trivial⟩
      cases hstep.1 with
      | jetStream => exact ⟨hshared.coherent, hshared.owned, hshared.acked⟩
      | core => exact hshared
    | stamp | nak =>
      cases hstep.1
      exact ⟨hshared, htried⟩
    | created stage hmade hx =>
      cases hstep.1 with
      | create hcreate =>
        have hnext := hshared.create hmade hcreate
        exact ⟨hnext, fun hjs => ⟨stored_of_credible hmade.msg hjs,
          hnext.served hmade hjs (hcreate.held hx)⟩⟩
    | failed stage err hmade =>
      cases hstep.1 with
      | create hcreate => exact ⟨hshared.create hmade hcreate, trivial⟩
    | @ack origin x hjs =>
      cases hstep.1 with
      | ackLost => exact ⟨hshared, htried⟩
      | ack =>
        refine ⟨⟨hshared.coherent, hshared.owned, ?_⟩, htried⟩
        exact List.forall_mem_append.mpr
          ⟨hshared.acked, List.forall_mem_singleton.mpr (htried hjs)⟩
  others w stage q x w' _ _ _ htried _ hstep _ := htried.mono (made_step hstep.1)
  outside w w' hshared hothers := by
    obtain ⟨hothers, hspares⟩ := hothers
    have hmade : w.flowRuns.made ⊆ w'.flowRuns.made := by
      rw [made_others hothers]
      exact List.Subset.refl _
    refine ⟨?_, fun _ htried => htried.mono hmade⟩
    cases hothers with
    | flowRuns helse =>
      exact ⟨helse.coherent hshared.coherent, hshared.owned.elsewhere helse hspares,
        fun origin hmem => ⟨(hshared.acked origin hmem).1, (hshared.acked origin hmem).2.mono hmade⟩⟩
    | recreate => exact ⟨hshared.coherent, hshared.owned, hshared.acked⟩

end Assertions

/-! ## Deliveries that can be carried out -/

section Completion

variable {lib : BrokerLib} {env : Env World Req.Reply} {h : MessageHandler} {msg : Msg}
variable {named : String → Prop} {others : World → World → Prop}
variable {md : MsgMetadata} {w w₁ w₂ w' : World}

/-- A delivery whose acknowledgement was sent. -/
theorem completes_delivery {x : CreateReply} (hjs : h.isJetStream)
    (hmd : msg.metadata = .ok md) (hx : ∀ err, x ≠ .failed err)
    (hreceive : env w (.receive h) msg w₁)
    (hcreate : env w₁ (.create ⟨h, msg⟩ (natsFlowRun lib h msg (jetStreamRunName h md))) x w₂)
    (hack : env w₂ (.ack ⟨h, msg⟩) none w') : Completes env w (delivery lib h) w' () := by
  have hhandle : Completes env w₁ (handleMessage lib h msg) w₂ none := by
    simp only [handleMessage, flowRunName, hjs, if_true, hmd, Req.send,
      Program.request_bind]
    refine completes_call.mpr ⟨x, w₂, hcreate, ?_⟩
    cases x with
    | created | alreadyExists => exact completes_pure.mpr ⟨rfl, rfl⟩
    | failed err => exact absurd rfl (hx err)
  have hmessage : Completes env w₁ (onMessage lib h msg) w' true := by
    refine completes_bind.mpr ⟨none, w₂, hhandle, ?_⟩
    simp only [hjs, if_true]
    exact completes_call.mpr ⟨none, w', hack, completes_pure.mpr ⟨rfl, rfl⟩⟩
  refine completes_call.mpr ⟨msg, w₁, hreceive, ?_⟩
  change Completes env w₁ (onMessage lib h msg >>= _) w' ()
  refine completes_bind.mpr ⟨true, w', hmessage, ?_⟩
  simp only [Bool.not_true, Bool.and_false]
  exact completes_pure.mpr ⟨rfl, rfl⟩

theorem Runs.deliver {P : Pool World Req.Reply} {ps : List (NatsProgram Unit)}
    (hrun : Runs lib named env others P ⟨w, ps⟩) (hname : named h.triggerName)
    (hdelivery : Completes env w (delivery lib h) w' ()) :
    Runs lib named env others P ⟨w', .pure () :: ps⟩ :=
  (hrun.tail (.spawn ⟨h, hname, rfl⟩)).trans (hdelivery.pool ps)

end Completion

/-! ## Messages and their FlowRuns -/

/-- However deliveries, failures, new consumers and edits of Triggers interleave: as long as a
message is always delivered under its own number and nobody else takes names of the gateway's, a
message of a stream that is acknowledged has its FlowRun, with its own data, and no other. -/
theorem acked_carried_once {lib : BrokerLib} {P : Pool World Req.Reply}
    (hrun : Runs lib NumberedName (Req.numbered streams numbering) World.Sparing ⟨.start, []⟩ P) :
    ∀ origin ∈ P.world.acked, ∃ key run data,
      (∃ origin', (origin', key) ∈ P.world.flowRuns.made ∧ origin'.Same origin) ∧
      P.world.flowRuns.held key = some run ∧ run.spec.triggerData = some data ∧
      data.topic = origin.msg.subject ∧ data.body = storedText lib.toBytesLib origin.msg.data ∧
      data.headers = redactHeaders lib.toLower origin.msg.header [] ∧
      ∀ origin' key', (origin', key') ∈ P.world.flowRuns.made → origin'.Same origin →
        key' = key := by
  have hstart : Pool.Covered (Moves lib streams numbering) (Req.Credible streams numbering)
      (World.Shared lib streams numbering) (World.Tried streams) ⟨World.start, []⟩ :=
    ⟨⟨.empty, .empty, nofun⟩, nofun⟩
  obtain ⟨hshared, -⟩ := hstart.run nats_interference hrun
  intro origin hmem
  obtain ⟨hstored, origin', key, hin, hsame⟩ := hshared.acked origin hmem
  obtain ⟨run, hheld, hmade⟩ := hshared.coherent.kept _ _ hin
  obtain ⟨htrigger, place, hplace', hplace⟩ := hsame
  have hstored' := stored_of_credible hmade.msg (jetStream_of_place hmade.msg hplace')
  have hcarries := hmade.carries
  rw [hstored'.payload_eq hstored hplace' hplace] at hcarries
  obtain ⟨data, hdata, htopic, hbody, hheaders⟩ := hcarries
  refine ⟨key, run, data, ⟨origin', hin, htrigger, place, hplace', hplace⟩, hheld, hdata, htopic,
    hbody, hheaders, ?_⟩
  rintro origin'' key' hin'' ⟨htrigger'', place'', hplace'', hplace₂⟩
  obtain ⟨_, -, hmade''⟩ := hshared.coherent.kept _ _ hin''
  cases hplace.symm.trans hplace₂
  exact hmade''.key_eq hmade ⟨htrigger''.trans htrigger.symm, place, hplace'', hplace'⟩

def orderHandler : MessageHandler := ⟨"orders", "team", "ship", true⟩

def orderConsumer : ConsumerName := ⟨"ORDERS", durableName orderHandler.triggerName⟩

def orderPlaced : Payload := { subject := "orders.placed", data := [] }

def orderPaid : Payload := { subject := "orders.paid", data := [] }

def orderStreams : Streams := fun place =>
  if place = ⟨"ORDERS", 1⟩ then some orderPlaced
  else if place = ⟨"ORDERS", 2⟩ then some orderPaid else none

def orderOrigin (sequence consumerSequence : Nat) (payload : Payload) : Origin :=
  ⟨orderHandler, { payload with metadata := .ok ⟨⟨"ORDERS", sequence⟩, consumerSequence⟩ }⟩

/-- A delivery of the consumer, by a server that does what `allowed` says of what it may do. -/
theorem order_delivery {env : Env World Req.Reply} {allowed : (q : Req) → q.Reply → Prop}
    (henv : ∀ w q x w', Req.Step orderStreams w q x w' → allowed q x → env w q x w') {w : World}
    (sequence : Nat) (name : String) {payload : Payload} {x : CreateReply}
    {flowRuns : FlowRunStore Origin} {acked : List Origin}
    (hstored : orderStreams ⟨"ORDERS", sequence⟩ = some payload)
    (hname : jetStreamRunName orderHandler ⟨⟨"ORDERS", sequence⟩, w.delivered orderConsumer + 1⟩ =
      name)
    (hallowed : allowed (.receive orderHandler)
        (orderOrigin sequence (w.delivered orderConsumer + 1) payload).msg ∧
      (∀ origin run, allowed (.create origin run) x) ∧ ∀ origin, allowed (.ack origin) none)
    (hx : ∀ err, x ≠ .failed err)
    (hcreate : FlowRunStore.Create w.flowRuns
      (orderOrigin sequence (w.delivered orderConsumer + 1) payload)
      (natsFlowRun default orderHandler
        (orderOrigin sequence (w.delivered orderConsumer + 1) payload).msg name) x flowRuns)
    (hacked : acked = w.acked ∨
      acked = w.acked ++ [orderOrigin sequence (w.delivered orderConsumer + 1) payload]) :
    Completes env w (delivery default orderHandler)
      ⟨flowRuns, (w.deliver orderConsumer).delivered, acked⟩ () := by
  subst hname
  refine completes_delivery (x := x) rfl rfl hx
    (henv _ _ _ _ (@Req.Step.jetStream _ w orderHandler ⟨"ORDERS", sequence⟩ payload rfl hstored)
      hallowed.1)
    (henv _ _ _ _ (.create hcreate) (hallowed.2.1 _ _)) (henv _ _ _ _ ?_ (hallowed.2.2 _))
  rcases hacked with rfl | rfl
  · exact .ackLost _ _ _
  · exact .ack _ _ _

def orderStore₁ : FlowRunStore Origin :=
  NamedStore.empty.create (orderOrigin 1 1 orderPlaced) ⟨"team", "orders-seq-1"⟩
    (natsFlowRun default orderHandler (orderOrigin 1 1 orderPlaced).msg "orders-seq-1")

def orderStore₂ : FlowRunStore Origin :=
  orderStore₁.create (orderOrigin 1 2 orderPlaced) ⟨"team", "orders-seq-2"⟩
    (natsFlowRun default orderHandler (orderOrigin 1 2 orderPlaced).msg "orders-seq-2")

/-- The first delivery of the consumer is that of the first message. -/
def orderNumbering : Numbering orderStreams where
  sequence _ place := place.sequence
  injective _ place place' h h' heq := by
    have hstream (place : StreamPlace) (h : (orderStreams place).isSome) :
        place.stream = "ORDERS" := by
      unfold orderStreams at h
      split_ifs at h with h₁ h₂
      · rw [h₁]
      · rw [h₂]
      · cases h
    obtain ⟨stream, sequence⟩ := place
    obtain ⟨stream', sequence'⟩ := place'
    have hs : stream = "ORDERS" := hstream _ h
    have hs' : stream' = "ORDERS" := hstream _ h'
    have hseq : sequence = sequence' := heq
    rw [hs, hs', hseq]

/-- Two messages are delivered one after the other. -/
theorem orders_acked_once :
    ∃ P, Runs default NumberedName (Req.numbered orderStreams orderNumbering) World.Sparing
        ⟨.start, []⟩ P ∧
      P.world.acked = [orderOrigin 1 1 orderPlaced, orderOrigin 2 2 orderPaid] ∧
      ∃ key run data, P.world.flowRuns.held key = some run ∧ run.spec.triggerData = some data ∧
        data.topic = "orders.paid" := by
  let w : World := ⟨orderStore₁, (World.start.deliver orderConsumer).delivered,
    [orderOrigin 1 1 orderPlaced]⟩
  let w' : World := ⟨orderStore₁.create (orderOrigin 2 2 orderPaid) ⟨"team", "orders-seq-2"⟩
      (natsFlowRun default orderHandler (orderOrigin 2 2 orderPaid).msg "orders-seq-2"),
    (w.deliver orderConsumer).delivered,
    [orderOrigin 1 1 orderPlaced, orderOrigin 2 2 orderPaid]⟩
  have hnumbered (sequence : Nat) (h : sequence < 2 ^ 64) (payload : Payload) :
      Req.Numbered orderNumbering (.receive orderHandler)
        (orderOrigin sequence sequence payload).msg := by
    rintro md ⟨⟩
    exact ⟨h, rfl⟩
  have hplaced : Completes (Req.numbered orderStreams orderNumbering) .start
      (delivery default orderHandler) w () :=
    order_delivery (x := .created) (fun _ _ _ _ hstep hallowed => ⟨hstep, hallowed⟩) 1
      "orders-seq-1" rfl (by decide) ⟨hnumbered 1 (by decide) _, fun _ _ => trivial,
        fun _ => trivial⟩ nofun (.created rfl) (.inr rfl)
  have hpaid : Completes (Req.numbered orderStreams orderNumbering) w
      (delivery default orderHandler) w' () :=
    order_delivery (x := .created) (fun _ _ _ _ hstep hallowed => ⟨hstep, hallowed⟩) 2
      "orders-seq-2" rfl (by decide) ⟨hnumbered 2 (by decide) _, fun _ _ => trivial,
        fun _ => trivial⟩ nofun (.created (by decide)) (.inr rfl)
  have hname : NumberedName orderHandler.triggerName :=
    ⟨by decide, by simp [orderHandler, NameRune]⟩
  have hrun : Runs default NumberedName (Req.numbered orderStreams orderNumbering) World.Sparing
      ⟨.start, []⟩ ⟨w', [.pure (), .pure ()]⟩ :=
    Runs.deliver (Runs.deliver .refl hname hplaced) hname hpaid
  obtain ⟨key, run, data, -, hheld, hdata, htopic, -⟩ :=
    acked_carried_once hrun (orderOrigin 2 2 orderPaid) (by simp [w'])
  exact ⟨_, hrun, rfl, key, run, data, hheld, hdata, htopic⟩

/-- The acknowledgement of the first message was lost, and then the consumer was made anew: two
messages are acknowledged, the first has two FlowRuns and the second none. -/
theorem orders_doubled_and_lost : ∃ P, Runs default (fun _ => True) (Req.Step orderStreams)
      World.Others ⟨.start, []⟩ P ∧
    P.world.acked = [orderOrigin 1 2 orderPlaced, orderOrigin 2 1 orderPaid] ∧
    P.world.flowRuns.made = [(orderOrigin 1 1 orderPlaced, ⟨"team", "orders-seq-1"⟩),
      (orderOrigin 1 2 orderPlaced, ⟨"team", "orders-seq-2"⟩)] ∧
    (orderOrigin 1 1 orderPlaced).Same (orderOrigin 1 2 orderPlaced) ∧
    ∀ key run data, P.world.flowRuns.held key = some run → run.spec.triggerData = some data →
      data.topic = "orders.placed" := by
  let w₁ : World := ⟨orderStore₁, (World.start.deliver orderConsumer).delivered, []⟩
  let w₂ : World :=
    ⟨orderStore₂, (w₁.deliver orderConsumer).delivered, [orderOrigin 1 2 orderPlaced]⟩
  let w₃ : World := { w₂ with delivered := Function.update w₂.delivered orderConsumer 0 }
  let w₄ : World := ⟨orderStore₂, (w₃.deliver orderConsumer).delivered,
    [orderOrigin 1 2 orderPlaced, orderOrigin 2 1 orderPaid]⟩
  have hany : ∀ w q x w', Req.Step orderStreams w q x w' → True → Req.Step orderStreams w q x w' :=
    fun _ _ _ _ hstep _ => hstep
  have htrue {α β : Type} : True ∧ (∀ (_ : α) (_ : β), True) ∧ ∀ _ : α, True :=
    ⟨trivial, fun _ _ => trivial, fun _ => trivial⟩
  have hfirst : Completes (Req.Step orderStreams) .start (delivery default orderHandler) w₁ () :=
    order_delivery (x := .created) hany 1 "orders-seq-1" rfl (by decide) htrue nofun (.created rfl)
      (.inl rfl)
  have hagain : Completes (Req.Step orderStreams) w₁ (delivery default orderHandler) w₂ () :=
    order_delivery (x := .created) hany 1 "orders-seq-2" rfl (by decide) htrue nofun
      (.created (by decide)) (.inr rfl)
  -- the numbers start over, so the next message finds the FlowRun of the first
  have hpaid : Completes (Req.Step orderStreams) w₃ (delivery default orderHandler) w₄ () :=
    order_delivery (x := .alreadyExists) hany 2 "orders-seq-1" rfl (by decide) htrue nofun
      (.alreadyExists (by decide)) (.inr rfl)
  have hrun : Runs default (fun _ => True) (Req.Step orderStreams) World.Others ⟨.start, []⟩
      ⟨w₂, [.pure (), .pure ()]⟩ :=
    Runs.deliver (Runs.deliver .refl trivial hfirst) trivial hagain
  refine ⟨_, Runs.deliver (hrun.tail (.move (.recreate orderConsumer))) trivial hpaid, rfl, rfl,
    ?_, ?_⟩
  · exact ⟨rfl, ⟨"ORDERS", 1⟩, rfl, rfl⟩
  · intro key run data hheld hdata
    simp only [w₄, orderStore₂, orderStore₁, NamedStore.create, NamedStore.empty,
      Function.update_apply] at hheld
    split_ifs at hheld <;> cases hheld <;> cases hdata <;> rfl

end KubeZap.Nats
