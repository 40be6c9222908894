import KubeZap.Controller.QuotedText
import KubeZap.Controller.ExecuteStep
import KubeZap.Executor.BlockedRanges
import KubeZap.Foundation.Relational

/-! # Two runs of a step that differ in secret values

The URL of an http step may hold secret values, and errors quote the URL. The controller keeps a
URL to be shown beside the one to be called and replaces the one by the other in the text that
the executor answers with. Here two runs are followed side by side up to the first call of the
executor, and the texts of two answers are compared.
-/

namespace KubeZap

open Foundation

/-! ## Runs that differ in secret values -/

/-- What both runs find outside of the controller. -/
structure Outside where
  lib : Executor.Lib
  blockedCIDRs : List IPNet
  allowClusterInternal : Bool
  lookupIPAddr : String → Except String (List IP)
  /-- A URL as the text of a `*url.Error` has it: parsed, written again and quoted. -/
  printed : String → String

def SameKeys : Except ReadError (StringMap String) → Except ReadError (StringMap String) → Prop
  | .ok data, .ok data' => data.map Prod.fst = data'.map Prod.fst
  | .error e, .error e' => e = e'
  | .ok _, .error _ | .error _, .ok _ => False

/-- The same answer, but for the URL that its error embeds. -/
def ExecutorReply.SameUpToURL (printed : String → String) (url url' : String) :
    ExecutorReply → ExecutorReply → Prop
  | .answered resp, .answered resp' => resp.statusCode = resp'.statusCode ∧ resp.body = resp'.body ∧
      ∃ pieces, resp.error = embed (printed url) pieces ∧ resp'.error = embed (printed url') pieces
  | x, x' => x = x'

namespace Outside

variable (o : Outside)

def answers : (q : Executor.Req) → q.Reply
  | .lookupIPAddr host => o.lookupIPAddr host
  | .systemCertPool => none
  | .connect .. => ()
  | .rawDialContext .. => .ok ()

def ssrfError (url : String) : Option String :=
  match ((Operator.checkSSRF o.lib url o.blockedCIDRs o.allowClusterInternal).replay
    o.answers).2 with
  | .ok () => none
  | .error err => some err

/-- Two runs differ in the values of Secrets only: the check of a URL has the same outcome, the
executor answers the same up to the URL, and all else is answered alike. -/
def Alike : Event IoReply → Event IoReply → Prop
  | ⟨.getSecret key, x⟩, ⟨.getSecret key', x'⟩ => key = key' → SameKeys x x'
  | ⟨.checkSSRF url, x⟩, ⟨.checkSSRF url', x'⟩ =>
    x = o.ssrfError url ∧ x' = o.ssrfError url' ∧ (x = none ↔ x' = none)
  | ⟨.execute _ _ req, x⟩, ⟨.execute _ _ req', x'⟩ => x.SameUpToURL o.printed req.url req'.url x'
  | e, e' => e.1 = e'.1 → e = e'

def SameTarget (url url' : String) : Prop :=
  o.lib.hostname url = o.lib.hostname url' ∨
    ∃ host host', o.lib.hostname url = .ok host ∧ o.lib.hostname url' = .ok host' ∧
      ((isClusterInternal host = true ∧ isClusterInternal host' = true) ∨
        (isClusterInternal host = false ∧ isClusterInternal host' = false ∧
          ∃ ip, IP.parse host = some ip ∧ IP.parse host' = some ip))

def PrintsAsIs (url : String) : Prop := '"' ∉ url.toList ∧ o.printed url = inQuotes url

/-- An error text in which the URL stands between the pieces, as it is written, and nowhere else. -/
structure Redactable (url : String) (pieces : List String) : Prop where
  free : ∀ piece ∈ pieces, ¬ ContainsText piece url
  asIs : 1 < pieces.length → o.PrintsAsIs url

/-- The executor's errors can be redacted in both runs. -/
def GuardedReply (url url' : String) : ExecutorReply → ExecutorReply → Prop
  | .answered resp, .answered resp' => url = url' ∨
      ∃ pieces, resp.error = embed (o.printed url) pieces ∧
        resp'.error = embed (o.printed url') pieces ∧ o.Redactable url pieces ∧
        o.Redactable url' pieces
  | _, _ => True

/-- A URL that is refused has the same host in both runs, and one that an error embeds is printed as
it is written. -/
def Guarded : Event IoReply → Event IoReply → Prop
  | ⟨.checkSSRF url, x⟩, ⟨.checkSSRF url', _⟩ => x = none ∨ o.SameTarget url url'
  | ⟨.execute _ _ req, x⟩, ⟨.execute _ _ req', x'⟩ => o.GuardedReply req.url req'.url x x'
  | _, _ => True

end Outside

/-! ## What is shown of an error -/

def shownError (lib : GoLib) (url displayURL error : String) : String :=
  if url ≠ displayURL then lib.replaceAll error url displayURL else error

section Shown

variable {o : Outside} {lib : GoLib} {url url' displayURL : String} {pieces : List String}

theorem embed_redactable (hlib : lib.replaceAll = stringsReplaceAll) (h : o.Redactable url pieces) :
    shownError lib url displayURL (embed (o.printed url) pieces) =
      embed (inQuotes displayURL) pieces := by
  unfold shownError
  rw [hlib]
  match pieces, h with
  | [], _ =>
    rw [embed, embed]
    split <;> rfl
  | [piece], h =>
    rw [embed, embed, replaceAll_free (h.free piece List.mem_cons_self), ite_self]
  | piece :: next :: rest, h =>
    obtain ⟨hquote, hprinted⟩ := h.asIs (by simp)
    have hne : url ≠ "" := by
      rintro rfl
      exact h.free piece List.mem_cons_self ⟨[], piece.toList, rfl⟩
    rw [hprinted, replaceAll_embed hne hquote h.free]
    split
    · rfl
    · rename_i hsame
      rw [not_not.mp hsame]

theorem embed_ne_empty (text : String) (piece next : String) (rest : List String) :
    embed (inQuotes text) (piece :: next :: rest) ≠ "" := by
  intro hempty
  have hlist := congrArg String.toList hempty
  simp [embed, inQuotes] at hlist

theorem embed_empty_iff (h : o.Redactable url pieces) :
    embed (o.printed url) pieces = "" ↔ pieces = [] ∨ pieces = [""] := by
  match pieces, h with
  | [], _ => simp [embed]
  | [piece], _ => simp [embed]
  | piece :: next :: rest, h =>
    rw [(h.asIs (by simp)).2]
    simp [embed_ne_empty]

structure SameShown (lib : GoLib) (url url' : String) (resp resp' : ExecuteResponse) : Prop where
  statusCode : resp.statusCode = resp'.statusCode
  body : resp.body = resp'.body
  error : resp.error = "" ↔ resp'.error = ""
  shown : ∀ displayURL,
    shownError lib url displayURL resp.error = shownError lib url' displayURL resp'.error

theorem sameShown {resp resp' : ExecuteResponse} (hlib : lib.replaceAll = stringsReplaceAll)
    (halike : (ExecutorReply.answered resp).SameUpToURL o.printed url url' (.answered resp'))
    (hguarded : o.GuardedReply url url' (.answered resp) (.answered resp')) :
    SameShown lib url url' resp resp' := by
  obtain ⟨hstatus, hbody, pieces, herror, herror'⟩ := halike
  rcases hguarded with rfl | ⟨pieces, herror, herror', hred, hred'⟩
  · have hsame : resp.error = resp'.error := herror.trans herror'.symm
    exact ⟨hstatus, hbody, by rw [hsame], fun displayURL => by rw [hsame]⟩
  · refine ⟨hstatus, hbody, ?_, fun displayURL => ?_⟩
    · rw [herror, herror', embed_empty_iff hred, embed_empty_iff hred']
    · rw [herror, herror', embed_redactable hlib hred, embed_redactable hlib hred']

theorem ssrfError_sameTarget (h : o.SameTarget url url') : o.ssrfError url = o.ssrfError url' := by
  unfold Outside.ssrfError Operator.checkSSRF
  rcases h with hhost | ⟨host, host', hhost, hhost', htarget⟩
  · rw [hhost]
  · have hne {host : String} (h : isClusterInternal host = true ∨ (IP.parse host).isSome) :
        host ≠ "" := by
      rintro rfl
      revert h
      decide
    rw [hhost, hhost']
    rcases htarget with ⟨hin, hin'⟩ | ⟨hout, hout', ip, hip, hip'⟩
    · simp only [if_neg (hne (.inl hin)), if_neg (hne (.inl hin')), hin, hin', if_true]
    · have hne₁ : host ≠ "" := hne (.inr (by simp [hip]))
      have hne₂ : host' ≠ "" := hne (.inr (by simp [hip']))
      simp only [if_neg hne₁, if_neg hne₂, hout, hout', Bool.false_eq_true, if_false, hip, hip']

end Shown

/-! ## Reading secrets -/

/-- What is known of two answers to one pair of requests. -/
abbrev Outside.Related (o : Outside) (e e' : Event IoReply) : Prop := o.Alike e e' ∧ o.Guarded e e'

section Reads

open Program (Twin)

variable {o : Outside} {lib : GoLib} {namespace_ : String} {env : TemplateEnv}

theorem lookup_isSome_of_keys {data data' : StringMap String} {key : String}
    (h : data.map Prod.fst = data'.map Prod.fst) :
    (data.lookup key).isSome = (data'.lookup key).isSome := by
  have hkeys (data : StringMap String) :
      (data.lookup key).isSome = true ↔ key ∈ data.map Prod.fst := by
    simp only [List.lookup_isSome_iff, List.mem_map, beq_iff_eq, @eq_comm _ key]
  rw [Bool.eq_iff_iff, hkeys, hkeys, h]

theorem keyOf_agree {kind : String} {ref : KeySelector}
    {x x' : Except ReadError (StringMap String)} (h : SameKeys x x') :
    Agree (fun _ _ => True) (keyOf lib kind ref x) (keyOf lib kind ref x') := by
  match x, x', h with
  | .error e, .error _, rfl => exact rfl
  | .ok data, .ok data', h =>
    have hsome := @lookup_isSome_of_keys data data' ref.key h
    cases hd : data.lookup ref.key <;> cases hd' : data'.lookup ref.key <;>
      simp only [keyOf, hd, hd']
    · exact rfl
    · simp [hd, hd'] at hsome
    · simp [hd, hd'] at hsome
    · trivial

theorem twin_ask {q q' : IoReq} {P : IoReply q → IoReply q' → Prop}
    (h : ∀ x x', o.Related ⟨q, x⟩ ⟨q', x'⟩ → P x x') : Twin o.Related P (ask q) (ask q') :=
  Twin.request h

theorem twin_getSecret (key : NamespacedName) :
    Twin o.Related SameKeys (ask (.getSecret key)) (ask (.getSecret key)) :=
  @twin_ask o (.getSecret key) (.getSecret key) SameKeys fun _ _ h => h.1 rfl

theorem twin_same {q : IoReq}
    (h : ∀ x x', o.Alike ⟨q, x⟩ ⟨q, x'⟩ → (⟨q, x⟩ : Event IoReply) = ⟨q, x'⟩) :
    Twin o.Related Eq (ask q) (ask q) :=
  twin_ask fun x x' hx => eq_of_heq (Sigma.mk.inj (h x x' hx.1)).2

theorem twin_now : Twin o.Related Eq (ask .now) (ask .now) := twin_same fun _ _ h => h rfl

theorem twin_fetchSecretValue (ref : KeySelector) :
    Twin o.Related (Agree fun _ _ => True) (fetchSecretValue lib namespace_ ref)
      (fetchSecretValue lib namespace_ ref) :=
  (twin_getSecret _).bind fun _ _ h => Twin.pure (keyOf_agree h)

theorem twin_wrapping {α α' : Type} {P : α → α' → Prop} {msg : String}
    {p : StepProgram (Except Err α)} {p' : StepProgram (Except Err α')}
    (h : Twin o.Related (Agree P) p p') : TwinT o.Related P (wrapping msg p) (wrapping msg p') := by
  refine Twin.bind h fun r r' hr => Twin.pure ?_
  match r, r', hr with
  | .ok a, .ok a', ha => exact ha
  | .error e, .error _, rfl => exact rfl

/-! ## Templates -/

structure SameToken (t t' : TokenValue) : Prop where
  err : t.err = t'.err
  matched : t.matched = t'.matched
  isSecret : t.isSecret = t'.isSecret
  value : t.isSecret = false → t.value = t'.value

theorem SameToken.refl (t : TokenValue) : SameToken t t := ⟨rfl, rfl, rfl, fun _ => rfl⟩

abbrev stepResolver (lib : GoLib) (namespace_ : String) : SecretResolver StepProgram :=
  fun name key => fetchSecretValue lib namespace_ ⟨name, key⟩

theorem twin_resolveSecretToken (token : List Char) :
    Twin o.Related SameToken (resolveSecretToken token (some (stepResolver lib namespace_)))
      (resolveSecretToken token (some (stepResolver lib namespace_))) := by
  simp only [resolveSecretToken]
  split
  · exact Twin.pure (.refl _)
  · refine (twin_fetchSecretValue _).bind fun r r' hr => ?_
    cases r with
    | ok v =>
      cases r' with
      | ok v' => exact Twin.pure ⟨rfl, rfl, rfl, fun h => by cases h⟩
      | error e => cases hr
    | error e =>
      cases r' with
      | ok v' => cases hr
      | error e' =>
        cases hr
        exact Twin.pure (.refl _)

theorem twin_resolveInterpolationToken (token : List Char) (bodyRoot : Option BodyValue)
    (headers : StringMap String) :
    Twin o.Related SameToken
      (resolveInterpolationToken lib token env bodyRoot headers
        (some (stepResolver lib namespace_)))
      (resolveInterpolationToken lib token env bodyRoot headers
        (some (stepResolver lib namespace_))) := by
  unfold resolveInterpolationToken
  repeat' split
  all_goals first
    | exact twin_resolveSecretToken token
    | exact Twin.pure (.refl _)

structure SameDisplay (i i' : Interpolation) : Prop where
  err : i.err = i'.err
  display : i.display = i'.display

theorem twin_interpolateLoop {resolve : List Char → StepProgram TokenValue}
    (hresolve : ∀ token, Twin o.Related SameToken (resolve token) (resolve token)) (fuel : Nat)
    (s actual actual' display : List Char) :
    Twin o.Related SameDisplay (interpolateLoop resolve fuel s actual display)
      (interpolateLoop resolve fuel s actual' display) := by
  induction fuel generalizing s actual actual' display with
  | zero => exact Twin.pure ⟨rfl, rfl⟩
  | succ fuel ih =>
    simp only [interpolateLoop]
    split
    · exact Twin.pure ⟨rfl, rfl⟩
    · split
      · exact Twin.pure ⟨rfl, rfl⟩
      · refine (hresolve _).bind fun t t' ht => ?_
        rw [← ht.err, ← ht.matched, ← ht.isSecret]
        split
        · exact Twin.pure ⟨rfl, rfl⟩
        · split
          · cases hsecret : t.isSecret with
            | true =>
              simp only [if_true]
              exact ih _ _ _ _
            | false =>
              rw [ht.value hsecret]
              exact ih _ _ _ _
          · exact ih _ _ _ _

theorem twin_substituteVarsWithSecrets (s : String) :
    Twin o.Related (Agree fun a a' => a.2 = a'.2)
      (substituteVarsWithSecrets lib namespace_ s env)
      (substituteVarsWithSecrets lib namespace_ s env) := by
  refine Twin.bind (twin_interpolateLoop (twin_resolveInterpolationToken · _ _) _ _ _ _ _)
    fun i i' hi => ?_
  rw [← hi.err]
  split
  · exact Twin.pure rfl
  · exact Twin.pure hi.display

theorem twin_substituteHeaders (place : String → String) (headers : StringMap String) :
    TwinT o.Related (fun _ _ => True) (substituteHeaders lib namespace_ env place headers)
      (substituteHeaders lib namespace_ env place headers) := by
  induction headers with
  | nil => exact TwinT.pure trivial
  | cons header rest ih =>
    refine (twin_wrapping (twin_substituteVarsWithSecrets _)).bind fun _ _ _ => ?_
    exact ih.bind fun _ _ _ => TwinT.pure trivial

end Reads

/-! ## The request of a step -/

section Prepare

open Program (Twin)

variable {o : Outside} {r : FlowRunReconciler} {namespace_ : String} {env : TemplateEnv}

theorem twin_fetchAuth (integrationName what : String) (ref : KeySelector) :
    TwinT o.Related (fun _ _ => True) (fetchAuth r.lib integrationName namespace_ what ref)
      (fetchAuth r.lib integrationName namespace_ what ref) :=
  twin_wrapping (twin_fetchSecretValue ref)

theorem twin_applyHTTPAuth (auth : HttpAuthSpec) (integrationName url url' : String)
    (headers headers' : StringMap String) :
    TwinT o.Related (fun _ _ => True)
      (applyHTTPAuth r.lib auth integrationName namespace_ url headers)
      (applyHTTPAuth r.lib auth integrationName namespace_ url' headers') := by
  obtain ⟨type, bearer, basic, apiKey, secretURL⟩ := auth
  cases type with
  | bearer =>
    cases bearer with
    | none => exact TwinT.pure trivial
    | some ref => exact (twin_fetchAuth _ _ _).bind fun _ _ _ => TwinT.pure trivial
  | basic =>
    cases basic with
    | none => exact TwinT.pure trivial
    | some basic =>
      exact (twin_fetchAuth _ _ _).bind fun _ _ _ =>
        (twin_fetchAuth _ _ _).bind fun _ _ _ => TwinT.pure trivial
  | apiKey =>
    cases apiKey with
    | none => exact TwinT.pure trivial
    | some key => exact (twin_fetchAuth _ _ _).bind fun _ _ _ => TwinT.pure trivial
  | secretURL =>
    cases secretURL with
    | none => exact TwinT.pure trivial
    | some ref => exact (twin_fetchAuth _ _ _).bind fun _ _ _ => TwinT.pure trivial

theorem clientCertOf_agree {lib : GoLib} {secretName integrationName : String}
    {x x' : Except ReadError (StringMap String)} (h : SameKeys x x') :
    Agree (fun _ _ => True) (clientCertOf lib secretName integrationName x)
      (clientCertOf lib secretName integrationName x') := by
  match x, x', h with
  | .error e, .error _, rfl => exact rfl
  | .ok data, .ok data', h =>
    have hcrt := @lookup_isSome_of_keys data data' "tls.crt" h
    have hkey := @lookup_isSome_of_keys data data' "tls.key" h
    cases hc : data.lookup "tls.crt" <;> cases hc' : data'.lookup "tls.crt" <;>
      simp only [hc, hc', Option.isSome_none, Option.isSome_some, Bool.false_eq_true,
        Bool.true_eq_false] at hcrt
    · simp only [clientCertOf, hc, hc']
      exact rfl
    · cases hk : data.lookup "tls.key" <;> cases hk' : data'.lookup "tls.key" <;>
        simp only [hk, hk', Option.isSome_none, Option.isSome_some, Bool.false_eq_true,
          Bool.true_eq_false] at hkey
      · simp only [clientCertOf, hc, hc', hk, hk']
        exact rfl
      · simp only [clientCertOf, hc, hc', hk, hk']
        trivial

theorem twin_fetchCABundle (tlsSpec : HttpTLSSpec) (integrationName : String) :
    TwinT o.Related (fun _ _ => True) (fetchCABundle r.lib tlsSpec integrationName namespace_)
      (fetchCABundle r.lib tlsSpec integrationName namespace_) := by
  unfold fetchCABundle
  split
  · exact TwinT.pure trivial
  · refine twin_wrapping (Twin.bind (twin_same fun _ _ h => h rfl) fun x x' hx => Twin.pure ?_)
    subst hx
    cases keyOf r.lib "configmap" _ x with
    | ok val => trivial
    | error e => exact rfl

theorem twin_fetchClientCert (tlsSpec : HttpTLSSpec) (integrationName : String) :
    TwinT o.Related (fun _ _ => True) (fetchClientCert r.lib tlsSpec integrationName namespace_)
      (fetchClientCert r.lib tlsSpec integrationName namespace_) := by
  unfold fetchClientCert
  split
  · exact TwinT.pure trivial
  · exact (TwinT.lift (twin_getSecret _)).bind fun _ _ h => Twin.pure (clientCertOf_agree h)

theorem twin_resolveHTTPTLS (tlsSpec : HttpTLSSpec) (integrationName : String) :
    TwinT o.Related (fun _ _ => True) (resolveHTTPTLS r.lib tlsSpec integrationName namespace_)
      (resolveHTTPTLS r.lib tlsSpec integrationName namespace_) :=
  (twin_fetchCABundle tlsSpec integrationName).bind fun _ _ _ =>
    (twin_fetchClientCert tlsSpec integrationName).bind fun _ _ _ => TwinT.pure trivial

theorem twin_applyHTTPSpec (httpInteg : HttpIntegrationSpec) (integrationName url url' : String)
    (headers headers' : StringMap String) :
    TwinT o.Related (fun _ _ => True)
      (applyHTTPSpec r.lib httpInteg integrationName namespace_ url headers env)
      (applyHTTPSpec r.lib httpInteg integrationName namespace_ url' headers' env) := by
  have hauth : ∀ (url url' : String) (headers headers' : StringMap String),
      TwinT o.Related (fun _ _ => True)
        (httpInteg.auth.elim (pure (url, headers)) fun auth =>
          applyHTTPAuth r.lib auth integrationName namespace_ url headers)
        (httpInteg.auth.elim (pure (url', headers')) fun auth =>
          applyHTTPAuth r.lib auth integrationName namespace_ url' headers') := by
    intro url url' headers headers'
    cases httpInteg.auth with
    | none => exact TwinT.pure trivial
    | some auth => exact twin_applyHTTPAuth auth integrationName url url' headers headers'
  refine (hauth _ _ _ _).bind fun _ _ _ => ?_
  have htls : TwinT o.Related (fun _ _ => True)
      (httpInteg.tls.elim (pure {}) fun tlsSpec =>
        resolveHTTPTLS r.lib tlsSpec integrationName namespace_)
      (httpInteg.tls.elim (pure {}) fun tlsSpec =>
        resolveHTTPTLS r.lib tlsSpec integrationName namespace_) := by
    cases httpInteg.tls with
    | none => exact TwinT.pure trivial
    | some tlsSpec => exact twin_resolveHTTPTLS tlsSpec integrationName
  exact htls.bind fun _ _ _ => TwinT.pure trivial

theorem twin_integrateHTTP (h : HTTPAction) (url url' : String)
    (headers headers' : StringMap String) :
    TwinT o.Related (fun _ _ => True) (integrateHTTP r h namespace_ url headers env)
      (integrateHTTP r h namespace_ url' headers' env) := by
  unfold integrateHTTP
  cases h.integrationRef with
  | none => exact TwinT.pure trivial
  | some ref =>
    by_cases href : ref = ""
    · simp only [href, if_true]
      exact TwinT.pure trivial
    · simp only [href, if_false]
      refine TwinT.bind (TwinT.lift (twin_same fun _ _ h => h rfl)) fun x x' hx => ?_
      subst hx
      cases x with
      | error e => exact TwinT.throw _
      | ok integration =>
        cases hhttp : integration.http with
        | none =>
          simp only [hhttp]
          exact TwinT.pure trivial
        | some httpInteg =>
          simp only [hhttp]
          exact twin_applyHTTPSpec httpInteg ref url url' headers headers'

theorem twin_guardSSRF (step : FlowStep) (url url' : String) :
    TwinT o.Related (fun _ _ => True) (guardSSRF r.lib step url) (guardSSRF r.lib step url') := by
  have hask : Twin o.Related Eq (ask (.checkSSRF url)) (ask (.checkSSRF url')) := by
    refine @twin_ask o (.checkSSRF url) (.checkSSRF url') Eq fun x x' h => ?_
    obtain ⟨⟨hx, hx', hiff⟩, hguarded⟩ := h
    rcases hguarded with hpassed | htarget
    · exact hpassed.trans (hiff.mp hpassed).symm
    · rw [hx, hx', ssrfError_sameTarget htarget]
  refine (TwinT.lift hask).bind fun x x' hx => ?_
  subst hx
  cases x with
  | none => exact TwinT.pure trivial
  | some err => exact TwinT.throw _

theorem twin_stepTimeoutCtx (ctx : Ctx) (step : FlowStep) :
    Twin o.Related Eq (stepTimeoutCtx ctx step) (stepTimeoutCtx ctx step) := by
  unfold stepTimeoutCtx
  split
  · exact Twin.pure rfl
  · split
    · exact twin_now.bind fun _ _ hnow => Twin.pure (by rw [hnow])
    · exact Twin.pure rfl

theorem twin_actionTimeoutCtx (ctx : Ctx) (step : FlowStep) (timeoutSec : Int) :
    Twin o.Related Eq (actionTimeoutCtx ctx step timeoutSec)
      (actionTimeoutCtx ctx step timeoutSec) := by
  unfold actionTimeoutCtx
  split
  · exact twin_now.bind fun _ _ hnow => Twin.pure (by rw [hnow])
  · exact Twin.pure rfl

theorem twin_prepareHTTP (ctx : Ctx) (step : FlowStep) (h : HTTPAction) :
    TwinT o.Related (fun a a' => a.2 = a'.2) (prepareHTTP r ctx step h env namespace_)
      (prepareHTTP r ctx step h env namespace_) := by
  refine (TwinT.lift (twin_stepTimeoutCtx ctx step)).bind fun ctx ctx' hctx => ?_
  subst hctx
  refine (twin_wrapping (twin_substituteVarsWithSecrets h.url)).bind fun url url' hurl => ?_
  refine (twin_wrapping (twin_substituteVarsWithSecrets h.body)).bind fun _ _ _ => ?_
  refine (twin_substituteHeaders _ h.headers).bind fun _ _ _ => ?_
  refine (twin_integrateHTTP h _ _ _ _).bind fun _ _ _ => ?_
  refine (twin_guardSSRF step _ _).bind fun _ _ _ => ?_
  refine (TwinT.lift (twin_actionTimeoutCtx _ step _)).bind fun _ _ hstepCtx => ?_
  exact TwinT.pure (by rw [hurl, hstepCtx])

end Prepare

end KubeZap
