import KubeZap.Foundation.Protocol
import KubeZap.Controller.ExecuteStep

/-! # What a step returns

The only part of a step that the reconciler tells apart from success and failure
is a POST to the executor that was not answered. `RpcState` remembers it; every
other request of a step is quiet. `executeStep_follows` then says what
`executeStep` returns in each of the two states.
-/

namespace KubeZap

open Foundation

/-- `none` until `Client.Do` of a POST to the executor returns an error. -/
abbrev RpcState := Option NetErr

/-- After an unanswered POST a step reads the clock at most. -/
def rpcMoves : Protocol RpcState IoReply := fun σ q x σ' =>
  match q, x with
  | .now, _ => σ' = σ
  | .execute _ _ _, .unsent err => σ = none ∧ σ' = some err
  | _, _ => σ = none ∧ σ' = none

def anyReply : (q : IoReq) → IoReply q → Prop := fun _ _ => True

/-- A program without an unanswered POST that returns only what `post` allows. -/
def Quiet {α : Type} (post : α → Prop) (p : StepProgram α) : Prop :=
  Follows rpcMoves anyReply (fun σ a => σ = none ∧ post a) none p

def PlainErr (err : Option Err) : Prop := ∀ e, err = some e → e.isTransport = false

def PlainResult {α : Type} : Except Err α → Prop
  | .error e => e.isTransport = false
  | .ok _ => True

section Calculus

variable {α β : Type} {post : α → Prop} {goal : β → Prop}

theorem quiet_pure {a : α} (h : post a) : Quiet post (pure a) := ⟨rfl, h⟩

theorem quiet_bind {p : StepProgram α} {f : α → StepProgram β} (hp : Quiet post p)
    (hf : ∀ a, post a → Quiet goal (f a)) : Quiet goal (p >>= f) := by
  refine Follows.bind hp fun σ a h => ?_
  obtain ⟨rfl, ha⟩ := h
  exact hf a ha

theorem quiet_ask {q : IoReq} (h : ∀ x, rpcMoves none q x none) : Quiet (fun _ => True) (ask q) :=
  fun x _ => ⟨none, h x, rfl, trivial⟩

theorem quiet_now : Quiet (fun _ => True) (ask .now) := quiet_ask fun _ => rfl

theorem quiet_lift {p : StepProgram α} (h : Quiet (fun _ => True) p) :
    Quiet PlainResult (liftM p : Fallible α).run :=
  quiet_bind h fun _ _ => quiet_pure trivial

theorem quiet_return (a : α) : Quiet PlainResult (pure a : Fallible α).run :=
  quiet_pure trivial

theorem quiet_throw {e : Err} (h : e.isTransport = false) :
    Quiet PlainResult (throw e : Fallible α).run :=
  quiet_pure h

theorem quiet_andThen {p : Fallible α} {f : α → Fallible β} (hp : Quiet PlainResult p.run)
    (hf : ∀ a, Quiet PlainResult (f a).run) : Quiet PlainResult (p >>= f).run := by
  refine quiet_bind hp fun r hr => ?_
  cases r with
  | error e => exact quiet_pure hr
  | ok a => exact hf a

theorem quiet_wrapping {msg : String} {p : StepProgram (Except Err α)}
    (h : Quiet PlainResult p) : Quiet PlainResult (wrapping msg p).run := by
  refine quiet_bind h fun r hr => ?_
  cases r with
  | error e => exact quiet_pure hr
  | ok a => exact quiet_pure trivial

end Calculus

/-! ## Reads are quiet -/

section Reads

variable (lib : GoLib)

theorem plainResult_keyOf (kind : String) (ref : KeySelector)
    (reply : Except ReadError (StringMap String)) : PlainResult (keyOf lib kind ref reply) := by
  cases reply with
  | error e => rfl
  | ok data =>
    unfold keyOf
    dsimp only
    split
    · rfl
    · trivial

theorem quiet_fetchSecretValue (ns : String) (ref : KeySelector) :
    Quiet PlainResult (fetchSecretValue lib ns ref) :=
  quiet_bind (quiet_ask fun _ => ⟨rfl, rfl⟩) fun reply _ =>
    quiet_pure (plainResult_keyOf lib "secret" ref reply)

theorem quiet_fetchConfigMapValue (ns : String) (ref : KeySelector) :
    Quiet PlainResult (fetchConfigMapValue lib ns ref) :=
  quiet_bind (quiet_ask fun _ => ⟨rfl, rfl⟩) fun reply _ =>
    quiet_pure (plainResult_keyOf lib "configmap" ref reply)

theorem quiet_resolveSecretToken (ns : String) (token : List Char) :
    Quiet (fun v => PlainErr v.err)
      (resolveSecretToken token (some fun name key => fetchSecretValue lib ns ⟨name, key⟩)) := by
  unfold resolveSecretToken
  dsimp only
  split
  · exact quiet_pure nofun
  · refine quiet_bind (quiet_fetchSecretValue lib ns _) fun r hr => ?_
    cases r with
    | error ferr =>
      refine quiet_pure fun e he => ?_
      cases he
      exact hr
    | ok v => exact quiet_pure nofun

theorem quiet_resolveInterpolationToken (ns : String) (token : List Char) (env : TemplateEnv)
    (body : Option BodyValue) (headers : StringMap String) :
    Quiet (fun v => PlainErr v.err) (resolveInterpolationToken lib token env body headers
      (some fun name key => fetchSecretValue lib ns ⟨name, key⟩)) := by
  have hstep := (resolveStepToken_plain token env.stepResults).1
  have hscalar := (resolveTriggerScalarToken_plain lib token env.triggerData).1
  unfold resolveInterpolationToken
  split
  · exact quiet_pure fun e he => by rw [hstep] at he; cases he
  · repeat' split
    all_goals first
      | exact quiet_resolveSecretToken lib ns token
      | exact quiet_pure fun e he => by rw [hscalar] at he; cases he
      | exact quiet_pure nofun

theorem quiet_expand {resolve : List Char → StepProgram TokenValue}
    (h : ∀ t, Quiet (fun v => PlainErr v.err) (resolve t)) (segments : List (Scan.Segment Char))
    (actual display : List Char) :
    Quiet (fun v => PlainErr v.err) (expand resolve segments actual display) := by
  induction segments generalizing actual display with
  | nil => exact quiet_pure nofun
  | cons segment rest ih =>
    cases segment with
    | lit x => exact ih _ _
    | token t =>
      refine quiet_bind (h t) fun r hr => ?_
      split
      · rename_i rerr herr
        refine quiet_pure fun e he => ?_
        cases he
        exact hr _ herr
      · split
        · exact ih _ _
        · exact ih _ _

theorem quiet_substituteVarsWithSecrets (ns s : String) (env : TemplateEnv) :
    Quiet PlainResult (substituteVarsWithSecrets lib ns s env) := by
  unfold substituteVarsWithSecrets
  rw [interpolateTemplate_eq_expand]
  refine quiet_bind (quiet_expand (fun t => ?_) _ _ _) fun r hr => ?_
  · exact quiet_resolveInterpolationToken lib ns t env _ _
  · split
    · rename_i e he
      exact quiet_pure (hr e he)
    · exact quiet_pure trivial

theorem quiet_substituteHeaders (ns : String) (env : TemplateEnv) (place : String → String)
    (headers : StringMap String) :
    Quiet PlainResult (substituteHeaders lib ns env place headers).run := by
  induction headers with
  | nil => exact quiet_return _
  | cons e rest ih =>
    refine quiet_andThen (quiet_wrapping (quiet_substituteVarsWithSecrets lib ns _ env))
      fun r => ?_
    exact quiet_andThen ih fun _ => quiet_return _

theorem quiet_fetchAuth (integrationName ns what : String) (ref : KeySelector) :
    Quiet PlainResult (fetchAuth lib integrationName ns what ref).run :=
  quiet_wrapping (quiet_fetchSecretValue lib ns ref)

theorem quiet_applyHTTPAuth (auth : HttpAuthSpec) (integrationName ns url : String)
    (headers : StringMap String) :
    Quiet PlainResult (applyHTTPAuth lib auth integrationName ns url headers).run := by
  unfold applyHTTPAuth
  split
  · exact quiet_andThen (quiet_fetchAuth lib _ _ _ _) fun _ => quiet_return _
  · refine quiet_andThen (quiet_fetchAuth lib _ _ _ _) fun _ => ?_
    exact quiet_andThen (quiet_fetchAuth lib _ _ _ _) fun _ => quiet_return _
  · exact quiet_andThen (quiet_fetchAuth lib _ _ _ _) fun _ => quiet_return _
  · exact quiet_andThen (quiet_fetchAuth lib _ _ _ _) fun _ => quiet_return _
  · exact quiet_return _

theorem plainResult_clientCertOf (secretName integrationName : String)
    (reply : Except ReadError (StringMap String)) :
    PlainResult (clientCertOf lib secretName integrationName reply) := by
  cases reply with
  | error e => rfl
  | ok data =>
    unfold clientCertOf
    dsimp only
    split
    · rfl
    · rfl
    · trivial

theorem quiet_resolveHTTPTLS (tls : HttpTLSSpec) (integrationName ns : String) :
    Quiet PlainResult (resolveHTTPTLS lib tls integrationName ns).run := by
  have hca : Quiet PlainResult (fetchCABundle lib tls integrationName ns).run := by
    unfold fetchCABundle
    split
    · exact quiet_return _
    · exact quiet_wrapping (quiet_fetchConfigMapValue lib _ _)
  have hcert : Quiet PlainResult (fetchClientCert lib tls integrationName ns).run := by
    unfold fetchClientCert
    split
    · exact quiet_return _
    · exact quiet_andThen (quiet_lift (quiet_ask fun _ => ⟨rfl, rfl⟩)) fun reply =>
        quiet_pure (plainResult_clientCertOf lib _ _ reply)
  exact quiet_andThen hca fun _ => quiet_andThen hcert fun _ => quiet_return _

theorem quiet_applyHTTPSpec (http : HttpIntegrationSpec) (integrationName ns url : String)
    (headers : StringMap String) (env : TemplateEnv) :
    Quiet PlainResult (applyHTTPSpec lib http integrationName ns url headers env).run := by
  unfold applyHTTPSpec
  refine quiet_andThen ?_ fun _ => quiet_andThen ?_ fun _ => quiet_return _
  · cases http.auth with
    | none => exact quiet_return _
    | some auth => exact quiet_applyHTTPAuth lib auth _ _ _ _
  · cases http.tls with
    | none => exact quiet_return _
    | some tls => exact quiet_resolveHTTPTLS lib tls _ _

theorem quiet_applyHTTPIntegration (integrationName ns url : String)
    (headers : StringMap String) (env : TemplateEnv) :
    Quiet PlainResult (applyHTTPIntegration lib integrationName ns url headers env).run := by
  refine quiet_andThen (quiet_lift (quiet_ask fun _ => ⟨rfl, rfl⟩)) fun reply => ?_
  cases reply with
  | error e => exact quiet_throw rfl
  | ok integration =>
    dsimp only
    cases integration.http with
    | none => exact quiet_return _
    | some http => exact quiet_applyHTTPSpec lib http _ _ _ _ _

end Reads

/-! ## The http step -/

section Http

variable (r : FlowRunReconciler)

theorem quiet_prepareHTTP (ctx : Ctx) (step : FlowStep) (h : HTTPAction) (env : TemplateEnv)
    (ns : String) : Quiet PlainResult (prepareHTTP r ctx step h env ns).run := by
  have htimeout : Quiet (fun _ => True) (stepTimeoutCtx ctx step) := by
    unfold stepTimeoutCtx
    split
    · exact quiet_pure trivial
    · split
      · exact quiet_bind quiet_now fun _ _ => quiet_pure trivial
      · exact quiet_pure trivial
  have hintegrate : ∀ url headers,
      Quiet PlainResult (integrateHTTP r h ns url headers env).run := by
    intro url headers
    unfold integrateHTTP
    split
    · exact quiet_return _
    · split
      · exact quiet_return _
      · exact quiet_applyHTTPIntegration r.lib _ _ _ _ _
  have hguard : ∀ url, Quiet PlainResult (guardSSRF r.lib step url).run := by
    intro url
    refine quiet_andThen (quiet_lift (quiet_ask fun _ => ⟨rfl, rfl⟩)) fun reply => ?_
    cases reply with
    | some err => exact quiet_throw rfl
    | none => exact quiet_return _
  have haction : ∀ ctx sec, Quiet (fun _ => True) (actionTimeoutCtx ctx step sec) := by
    intro ctx sec
    unfold actionTimeoutCtx
    split
    · exact quiet_bind quiet_now fun _ _ => quiet_pure trivial
    · exact quiet_pure trivial
  unfold prepareHTTP
  refine quiet_andThen (quiet_lift htimeout) fun ctx => ?_
  refine quiet_andThen (quiet_wrapping (quiet_substituteVarsWithSecrets _ _ _ _)) fun url => ?_
  refine quiet_andThen (quiet_wrapping (quiet_substituteVarsWithSecrets _ _ _ _)) fun body => ?_
  refine quiet_andThen (quiet_substituteHeaders _ _ _ _ _) fun headers => ?_
  refine quiet_andThen (hintegrate _ _) fun target => ?_
  refine quiet_andThen (hguard _) fun _ => ?_
  exact quiet_andThen (quiet_lift (haction _ _)) fun _ => quiet_return _

/-- The transport error of `callExecutor` for a `Client.Do` that failed with `err`. -/
def transportErr (err : NetErr) : Err :=
  .executorTransportError (.wrap "sending request to executor: " err.err)

/-- What an http step returns: the transport error exactly when its last POST was
not answered. -/
def HttpPost (σ : RpcState) (ret : HttpReturn) : Prop :=
  match σ with
  | some err => ret.err = some (transportErr err)
  | none => PlainErr ret.err

theorem quiet_pauseBefore (ctx : Ctx) (policy : Option RetryPolicy) (attempt : Nat) :
    Quiet (fun _ => True) (pauseBefore ctx policy attempt) := by
  unfold pauseBefore
  split
  · exact quiet_ask fun _ => ⟨rfl, rfl⟩
  · exact quiet_pure trivial

theorem CtxErr.isTransport_err (e : CtxErr) : e.err.isTransport = false := by
  cases e <;> rfl

theorem NetErr.isTransport_err (e : NetErr) : e.err.isTransport = false := by
  unfold NetErr.err
  split
  · rfl
  · exact CtxErr.isTransport_err _

theorem callExecutor_follows (ctx : Ctx) (ns : String) (req : ExecuteRequest) :
    Follows rpcMoves anyReply (fun σ x => match σ with
      | some err => x = .error (transportErr err)
      | none => PlainResult x) none (callExecutor r ctx ns req) := by
  intro x _
  cases x with
  | unbuilt | refused => exact ⟨none, ⟨rfl, rfl⟩, rfl⟩
  | unsent err => exact ⟨some err, ⟨rfl, rfl⟩, rfl⟩
  | malformed err => exact ⟨none, ⟨rfl, rfl⟩, NetErr.isTransport_err err⟩
  | answered resp => exact ⟨none, ⟨rfl, rfl⟩, trivial⟩

theorem httpAttempts_follows (step : FlowStep) (h : HTTPAction) (ctx : Ctx)
    (ns displayURL : String) (req : ExecuteRequest) (rounds attempt : Nat)
    (lastErr : Option Err) (hlast : PlainErr lastErr) :
    Follows rpcMoves anyReply HttpPost none
      (httpAttempts r step h ctx ns displayURL req rounds attempt lastErr) := by
  induction rounds generalizing attempt lastErr with
  | zero => exact hlast
  | succ rounds ih =>
    refine Follows.bind (quiet_pauseBefore ctx step.retryPolicy attempt) fun σ pause hσ => ?_
    obtain ⟨rfl, _⟩ := hσ
    cases pause with
    | some err =>
      intro e he
      cases he
      exact CtxErr.isTransport_err err
    | none =>
      refine Follows.bind (callExecutor_follows r ctx ns req) fun σ x hx => ?_
      cases σ with
      | some err =>
        subst hx
        rfl
      | none =>
        cases x with
        | error err =>
          have hplain : err.isTransport = false := hx
          simp only [hplain, Bool.false_eq_true, if_false]
          refine ih _ _ fun e he => ?_
          cases he
          exact hplain
        | ok resp =>
          dsimp only
          split
          · exact ih _ _ fun e he => by cases he; rfl
          · split
            · exact nofun
            · exact ih _ _ fun e he => by cases he; rfl

theorem executeHTTPStep_follows (ctx : Ctx) (step : FlowStep) (env : TemplateEnv) (ns : String) :
    Follows rpcMoves anyReply HttpPost none (executeHTTPStep r ctx step env ns) := by
  unfold executeHTTPStep
  split
  · exact fun e he => by cases he; rfl
  · rename_i h _
    refine Follows.bind (quiet_prepareHTTP r ctx step h env ns) fun σ x hx => ?_
    obtain ⟨rfl, hplain⟩ := hx
    cases x with
    | error err =>
      intro e he
      cases he
      exact hplain
    | ok prepared =>
      exact httpAttempts_follows r step h _ ns _ _ _ _ _ nofun

end Http

/-! ## The publish step -/

section Publish

variable (r : FlowRunReconciler)

theorem quiet_publishAttempts (ctx : Ctx) (policy : Option RetryPolicy)
    {publish : StepProgram (Except Err (StringMap String))} (h : Quiet (fun _ => True) publish)
    (rounds attempt : Nat) (lastErr : Option Err) :
    Quiet (fun _ => True) (publishAttempts ctx policy publish rounds attempt lastErr) := by
  induction rounds generalizing attempt lastErr with
  | zero => exact quiet_pure trivial
  | succ rounds ih =>
    refine quiet_bind (quiet_pauseBefore ctx policy attempt) fun pause _ => ?_
    cases pause with
    | some err => exact quiet_pure trivial
    | none =>
      refine quiet_bind h fun x _ => ?_
      cases x with
      | ok result => exact quiet_pure trivial
      | error err => exact ih _ _

theorem quiet_doPluginPublish (ctx : Ctx) (url : String) (envelope : PluginPublishEnvelope)
    (timeout : Duration) : Quiet (fun _ => True) (doPluginPublish r ctx url envelope timeout) := by
  have hctx : Quiet (fun _ => True) (publishCtx ctx timeout) := by
    unfold publishCtx
    dsimp only
    split
    · exact quiet_bind quiet_now fun _ _ => quiet_pure trivial
    · refine quiet_bind quiet_now fun _ _ => ?_
      split
      · exact quiet_bind quiet_now fun _ _ => quiet_pure trivial
      · exact quiet_pure trivial
  refine quiet_bind hctx fun attemptCtx _ => ?_
  refine quiet_bind (quiet_ask fun _ => ⟨rfl, rfl⟩) fun reply _ => ?_
  cases reply with
  | unbuilt | unsent => exact quiet_pure trivial
  | answered statusCode body =>
    dsimp only
    split
    · exact quiet_pure trivial
    · exact quiet_pure trivial

theorem quiet_preparePublish (step : FlowStep) (p : PublishAction) (env : TemplateEnv)
    (ns : String) : Quiet PlainResult (preparePublish r step p env ns).run := by
  refine quiet_andThen (quiet_wrapping (quiet_substituteVarsWithSecrets _ _ _ _)) fun _ => ?_
  exact quiet_andThen (quiet_substituteHeaders _ _ _ _ _) fun _ => quiet_return _

theorem quiet_executePublishStep (ctx : Ctx) (step : FlowStep) (env : TemplateEnv)
    (ns uid : String) : Quiet (fun _ => True) (executePublishStep r ctx step env ns uid) := by
  have hvia : ∀ p integration,
      Quiet (fun _ => True) (publishVia r ctx step p env ns uid integration) := by
    intro p integration
    unfold publishVia
    split
    · refine quiet_bind (quiet_preparePublish r step p env ns) fun x _ => ?_
      cases x with
      | error err => exact quiet_pure trivial
      | ok prepared =>
        exact quiet_publishAttempts ctx _
          (quiet_ask (q := .publishToKafka _ _ _ _) fun _ => ⟨rfl, rfl⟩) _ _ _
    · exact quiet_pure trivial
    · refine quiet_bind (quiet_preparePublish r step p env ns) fun x _ => ?_
      cases x with
      | error err => exact quiet_pure trivial
      | ok prepared => exact quiet_publishAttempts ctx _ (quiet_doPluginPublish r ctx _ _ _) _ _ _
  unfold executePublishStep
  dsimp only
  split
  · exact quiet_pure trivial
  · split
    · exact quiet_pure trivial
    · refine quiet_bind (quiet_ask fun _ => ⟨rfl, rfl⟩) fun reply _ => ?_
      cases reply with
      | error e => exact quiet_pure trivial
      | ok integration => exact hvia _ integration

end Publish

/-! ## executeStep -/

def FinalStatus (step : FlowStep) (s : StepRunStatus) : Prop :=
  s.name = step.name ∧ (s.phase = .succeeded ∨ s.phase = .failed)

/-- What `executeStep` returns: a final status, or the transport error of the POST
that was not answered. -/
def StepPost (step : FlowStep) (σ : RpcState) (x : Except Err StepRunStatus) : Prop :=
  match σ with
  | some err => x = .error (transportErr err)
  | none => ∃ s, x = .ok s ∧ FinalStatus step s

theorem follows_now {α : Type} {post : RpcState → α → Prop} {σ : RpcState}
    {f : Time → StepProgram α} (h : ∀ t, Follows rpcMoves anyReply post σ (f t)) :
    Follows rpcMoves anyReply post σ (ask .now >>= f) :=
  fun t _ => ⟨σ, rfl, h t⟩

theorem executeStep_follows (r : FlowRunReconciler) (c : StepCall) :
    Follows rpcMoves anyReply (StepPost c.step) none (executeStep r c) := by
  refine follows_now fun start => ?_
  dsimp only
  split
  case h_1 =>
    refine Follows.bind (executeHTTPStep_follows r c.ctx c.step c.env c.namespace_)
      fun σ ret hret => ?_
    refine follows_now fun finish => ?_
    cases σ with
    | some err =>
      have herr : ret.err = some (transportErr err) := hret
      simp only [herr]
      rfl
    | none =>
      split
      · rename_i err herr
        rw [hret err herr]
        exact ⟨_, rfl, rfl, .inr rfl⟩
      · exact ⟨_, rfl, rfl, .inl rfl⟩
  case h_2 =>
    refine follows_now fun finish => ?_
    split
    · exact ⟨_, rfl, rfl, .inr rfl⟩
    · exact ⟨_, rfl, rfl, .inl rfl⟩
  case h_3 =>
    refine Follows.bind (quiet_executePublishStep r c.ctx c.step c.env c.namespace_ c.uid)
      fun σ ret hret => ?_
    obtain ⟨rfl, _⟩ := hret
    refine follows_now fun finish => ?_
    split
    · exact ⟨_, rfl, rfl, .inr rfl⟩
    · exact ⟨_, rfl, rfl, .inl rfl⟩
  case h_4 =>
    exact follows_now fun finish => ⟨_, rfl, rfl, .inr rfl⟩

def anyWorld : Env Unit IoReply := fun _ _ _ _ => True

def StepRun (r : FlowRunReconciler) (c : StepCall) (tr : List (Event IoReply))
    (x : Except Err StepRunStatus) : Prop :=
  Exec anyWorld () (executeStep r c) tr () (some x)

theorem executeStep_returns {r : FlowRunReconciler} {c : StepCall} {tr : List (Event IoReply)}
    {x : Except Err StepRunStatus} (h : StepRun r c tr x) :
    (∃ err, x = .error (transportErr err)) ∨ ∃ s, x = .ok s ∧ FinalStatus c.step s := by
  obtain ⟨σ, _, hpost⟩ := h.joint (fun _ _ _ _ _ => trivial) (executeStep_follows r c)
  have := hpost x rfl
  cases σ with
  | some err => exact .inl ⟨err, this⟩
  | none => exact .inr this

end KubeZap
