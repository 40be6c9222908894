import KubeZap.Controller.Simulation
import KubeZap.Executor.Handler
import KubeZap.Foundation.Relational

/-! # Integration credentials and redirects

The credential of an HTTP Integration is a header of the request that the step sends to the
executor. The executor's client follows redirects, since its `CheckRedirect` is nil, and
`net/http` copies the headers of the first request to every later one. For a host that
is neither the first one nor below it, the headers known as sensitive are dropped, and no others.
-/

namespace KubeZap

open Foundation
open Executor (OutRequest outRequest setHeaders)

/-! ## The requests of a client that follows redirects -/

structure Redirect where
  location : String
  /-- 307 and 308 keep the method and the body. -/
  includeBody : Bool

def sensitiveHeaders : List String := ["Authorization", "Www-Authenticate", "Cookie", "Cookie2"]

def isDomainOrSubdomain (sub parent : String) : Bool :=
  sub == parent ||
    (!sub.toList.any (fun c => c == ':' || c == '%') && ("." ++ parent).toList.isSuffixOf sub.toList)

section Client

variable (hostname : String → String)

def sameSite (first : OutRequest) (url : String) : Bool :=
  isDomainOrSubdomain (hostname url) (hostname first.url)

def followUp (first : OutRequest) (answer : Redirect) : OutRequest :=
  { first with
    method := if answer.includeBody then first.method else "GET"
    url := answer.location
    body := if answer.includeBody then first.body else ""
    headers :=
      if sameSite hostname first answer.location then first.headers
      else first.headers.filter fun e => !sensitiveHeaders.contains e.1 }

/-- Everything `client.Do` sends, when the upstreams answer with these redirects in turn. -/
def sentRequests (first : OutRequest) (redirects : List Redirect) : List OutRequest :=
  first :: redirects.map (followUp hostname first)

end Client

section Headers

variable {lib : Executor.Lib} {hostname : String → String}

theorem mem_setHeaders {headers : StringMap String} {e : String × String}
    (h : e ∈ setHeaders lib headers) :
    ∃ own ∈ headers, e = (lib.canonicalHeaderKey own.1, own.2) := by
  revert h
  -- an entry was set by one of the headers folded in so far
  refine List.foldlRecOn (motive := fun m : StringMap String => e ∈ m →
    ∃ own ∈ headers, e = (lib.canonicalHeaderKey own.1, own.2)) headers _ nofun ?_
  intro m hm own hown he
  rcases StringMap.mem_set he with heq | he
  · exact ⟨own, hown, heq⟩
  · exact hm he

theorem foreign_headers {first : OutRequest} {redirects : List Redirect} {sent : OutRequest}
    (hsent : sent ∈ sentRequests hostname first redirects)
    (hforeign : sameSite hostname first sent.url = false) :
    (∃ answer ∈ redirects, answer.location = sent.url) ∧
      ∀ e ∈ sent.headers, e ∈ first.headers ∧ e.1 ∉ sensitiveHeaders := by
  rcases List.mem_cons.mp hsent with rfl | hsent
  · simp [sameSite, isDomainOrSubdomain] at hforeign
  · obtain ⟨answer, hanswer, rfl⟩ := List.mem_map.mp hsent
    refine ⟨⟨answer, hanswer, rfl⟩, fun e he => ?_⟩
    change sameSite hostname first answer.location = false at hforeign
    simpa [followUp, hforeign] using he

end Headers

/-! ## Where the credential is put -/

section Auth

variable {W : Type} {env : Env W IoReply} {w w' : W}

def HttpAuthSpec.credentialHeader (auth : HttpAuthSpec) : Option String :=
  match auth.type with
  | .bearer | .basic => some "Authorization"
  | .apiKey => auth.apiKey.map HttpAPIKeyAuth.headerName
  | .secretURL => none

theorem applyHTTPAuth_headers {lib : GoLib} {auth : HttpAuthSpec} {name ns url url' : String}
    {headers headers' : StringMap String} {e : String × String}
    (h : Completes env w (applyHTTPAuth lib auth name ns url headers).run w'
      (.ok (url', headers'))) (he : e ∈ headers') :
    e ∈ headers ∨ auth.credentialHeader = some e.1 := by
  -- each kind of auth sets its own header over those of the step
  have hset {key value : String} (hkey : auth.credentialHeader = some key)
      (hmem : e ∈ headers.set key value) : e ∈ headers ∨ auth.credentialHeader = some e.1 := by
    rcases StringMap.mem_set hmem with rfl | hmem
    · exact .inr hkey
    · exact .inl hmem
  unfold applyHTTPAuth at h
  split at h
  case h_1 htype _ =>
    obtain ⟨token, w₁, -, hret⟩ := completes_ok_bind.mp h
    obtain ⟨-, ⟨⟩⟩ := completes_pure.mp hret
    exact hset (by simp [HttpAuthSpec.credentialHeader, htype]) he
  case h_2 htype _ =>
    obtain ⟨username, w₁, -, hrest⟩ := completes_ok_bind.mp h
    obtain ⟨password, w₂, -, hret⟩ := completes_ok_bind.mp hrest
    obtain ⟨-, ⟨⟩⟩ := completes_pure.mp hret
    exact hset (by simp [HttpAuthSpec.credentialHeader, htype]) he
  case h_3 htype hkey =>
    obtain ⟨apiKey, w₁, -, hret⟩ := completes_ok_bind.mp h
    obtain ⟨-, ⟨⟩⟩ := completes_pure.mp hret
    exact hset (by simp [HttpAuthSpec.credentialHeader, htype, hkey]) he
  case h_4 =>
    obtain ⟨secretURL, w₁, -, hret⟩ := completes_ok_bind.mp h
    obtain ⟨-, ⟨⟩⟩ := completes_pure.mp hret
    exact .inl he
  case h_5 =>
    obtain ⟨-, ⟨⟩⟩ := completes_pure.mp h
    exact .inl he

variable {r : FlowRunReconciler} {ctx stepCtx : Ctx} {step : FlowStep} {h : HTTPAction}
  {tenv : TemplateEnv} {ns ref displayURL : String} {integration : Integration}
  {httpInteg : HttpIntegrationSpec} {auth : HttpAuthSpec} {execReq : ExecuteRequest}

variable (href : h.integrationRef = some ref) (hname : ref ≠ "")
  (hread : ∀ w x w', env w (.getIntegration ⟨ns, ref⟩) x w' → x = .ok integration)
  (hhttp : integration.http = some httpInteg) (hauth : httpInteg.auth = some auth)
  (hprepared : Completes env w (prepareHTTP r ctx step h tenv ns).run w'
    (.ok (execReq, displayURL, stepCtx)))

include href hname hread hhttp hauth hprepared

theorem prepareHTTP_headers :
    ∃ place own w₁ w₂,
      Completes env w₁ (substituteHeaders r.lib ns tenv place h.headers).run w₂ (.ok own) ∧
      ∀ e ∈ execReq.headers, e ∈ withDefaultHeaders r.lib httpInteg own tenv ∨
        auth.credentialHeader = some e.1 := by
  unfold prepareHTTP at hprepared
  obtain ⟨ctx₁, w₁, -, hrest⟩ := completes_ok_bind.mp hprepared
  obtain ⟨url, w₂, -, hrest⟩ := completes_ok_bind.mp hrest
  obtain ⟨body, w₃, -, hrest⟩ := completes_ok_bind.mp hrest
  obtain ⟨own, w₄, hown, hrest⟩ := completes_ok_bind.mp hrest
  obtain ⟨target, w₅, htarget, hrest⟩ := completes_ok_bind.mp hrest
  obtain ⟨_, w₆, -, hrest⟩ := completes_ok_bind.mp hrest
  obtain ⟨ctx₂, w₇, -, hrest⟩ := completes_ok_bind.mp hrest
  obtain ⟨-, ⟨⟩⟩ := completes_pure.mp hrest
  refine ⟨_, own, w₃, w₄, hown, fun e he => ?_⟩
  simp only [integrateHTTP, href, hname, if_false] at htarget
  obtain ⟨x, w₈, hask, hspec⟩ := completes_ok_bind.mp htarget
  obtain ⟨y, w₉, henv, hreply⟩ := completes_call.mp hask
  obtain ⟨-, ⟨⟩⟩ := completes_pure.mp hreply
  cases hread _ _ _ henv
  simp only [hhttp] at hspec
  obtain ⟨authed, w₁₀, happly, hspec⟩ := completes_ok_bind.mp hspec
  obtain ⟨material, w₁₁, -, hspec⟩ := completes_ok_bind.mp hspec
  obtain ⟨-, ⟨⟩⟩ := completes_pure.mp hspec
  simp only [hauth, Option.elim_some] at happly
  exact applyHTTPAuth_headers happly he

/-- What a step with an Integration sends to another site than that of its URL are headers of
the step and of the Integration's defaults, and not the one with the credential: always
for a token or a login, and for an API key where no other site is asked or the
header is one that `net/http` drops. -/
theorem credential_stays_with_host (lib : Executor.Lib) (hostname : String → String)
    (hcanonical : lib.canonicalHeaderKey "Authorization" = "Authorization") :
    ∃ place own w₁ w₂,
      Completes env w₁ (substituteHeaders r.lib ns tenv place h.headers).run w₂ (.ok own) ∧
      ∀ redirects : List Redirect,
        (∀ key, auth.type = .apiKey → auth.apiKey = some key →
          lib.canonicalHeaderKey key.headerName ∈ sensitiveHeaders ∨
          ∀ answer ∈ redirects, sameSite hostname (outRequest lib execReq) answer.location = true) →
        ∀ sent ∈ sentRequests hostname (outRequest lib execReq) redirects,
          sameSite hostname (outRequest lib execReq) sent.url = false →
          ∀ e ∈ sent.headers, ∃ x ∈ withDefaultHeaders r.lib httpInteg own tenv,
            e = (lib.canonicalHeaderKey x.1, x.2) := by
  obtain ⟨place, own, w₁, w₂, hown, hheaders⟩ :=
    prepareHTTP_headers href hname hread hhttp hauth hprepared
  refine ⟨place, own, w₁, w₂, hown, fun redirects hcond sent hsent hforeign e he => ?_⟩
  obtain ⟨⟨answer, hanswer, hlocation⟩, hsub⟩ := foreign_headers hsent hforeign
  obtain ⟨hfirst, hplain⟩ := hsub e he
  obtain ⟨x, hx, rfl⟩ := mem_setHeaders hfirst
  rcases hheaders x hx with hx | hcredential
  · exact ⟨x, hx, rfl⟩
  · exfalso
    -- the credential's header would have been dropped, or there is no other site
    have hlogin (hheader : auth.credentialHeader = some "Authorization") : False := by
      have heq : "Authorization" = x.1 := Option.some.inj (hheader.symm.trans hcredential)
      apply hplain
      rw [← heq, hcanonical]
      exact List.mem_cons_self
    cases htype : auth.type with
    | bearer | basic => exact hlogin (by simp [HttpAuthSpec.credentialHeader, htype])
    | secretURL => simp [HttpAuthSpec.credentialHeader, htype] at hcredential
    | apiKey =>
      simp only [HttpAuthSpec.credentialHeader, htype, Option.map_eq_some_iff] at hcredential
      obtain ⟨key, hkey, heq⟩ := hcredential
      rcases hcond key htype hkey with hdropped | hsame
      · exact hplain (heq ▸ hdropped)
      · rw [← hlocation, hsame answer hanswer] at hforeign
        cases hforeign

end Auth

def chargeAction : HTTPAction where
  url := "/charge"
  integrationRef := some "payments"

def chargeStep : FlowStep where
  name := "charge"
  action := { type := .http, http := some chargeAction }

def paymentSpec (auth : HttpAuthSpec) : HttpIntegrationSpec where
  baseURL := "https://pay.example"
  auth := some auth

def paymentAnswers (auth : HttpAuthSpec) : (q : IoReq) → IoReply q
  | .getIntegration _ =>
    .ok { name := ⟨"default", "payments"⟩, type := .http, http := some (paymentSpec auth) }
  | .getSecret _ => .ok [("key", "s3cret")]
  | q => stepAnswers 0 (fun _ _ => .unbuilt "") q

def paymentEnv (auth : HttpAuthSpec) : Env Unit IoReply := fun _ q x _ => x = paymentAnswers auth q

def charge : Fallible (ExecuteRequest × String × Ctx) :=
  prepareHTTP plainReconciler {} chargeStep chargeAction {} "default"

def chargeRequest (header : String × String) : ExecuteRequest :=
  { method := "POST", url := "https://pay.example/charge", headers := [header],
    timeoutSeconds := 30 }

theorem charge_completes (auth : HttpAuthSpec) (header : String × String) (ctx : Ctx)
    (h : (charge.run.replay (paymentAnswers auth)).2 = .ok (chargeRequest header, "/charge", ctx)) :
    Completes (paymentEnv auth) () charge.run () (.ok (chargeRequest header, "/charge", ctx)) :=
  ⟨_, h ▸ Program.replay_exec (paymentAnswers auth) charge.run⟩

def payLib : Executor.Lib := { (default : Executor.Lib) with canonicalHeaderKey := id }

def hostOf (url : String) : String := .ofList ((url.toList.drop 8).takeWhile (· ≠ '/'))

def elsewhere : Redirect := ⟨"https://other.example/", true⟩

def tokenAuth : HttpAuthSpec := { type := .bearer, bearer := some ⟨"payments", "key"⟩ }

theorem token_stays_with_host :
    let first := outRequest payLib (chargeRequest ("Authorization", "Bearer s3cret"))
    ((sentRequests hostOf first [elsewhere]).filter fun sent =>
      sameSite hostOf first sent.url = false).flatMap (·.headers) = [] := by
  obtain ⟨place, own, w₁, w₂, hown, hsent⟩ :=
    credential_stays_with_host (h := chargeAction) rfl (by decide) (fun _ _ _ hread => hread) rfl
      rfl (charge_completes tokenAuth ("Authorization", "Bearer s3cret") ⟨some (30 * second)⟩
        (by decide +kernel)) payLib hostOf rfl
  refine List.flatMap_eq_nil_iff.mpr fun sent hkept => ?_
  obtain ⟨hmem, hforeign⟩ := List.mem_filter.mp hkept
  have hown : own = [] := Except.ok.inj (completes_pure.mp hown).2
  subst hown
  apply List.eq_nil_iff_forall_not_mem.mpr
  intro e he
  obtain ⟨x, hx, -⟩ := hsent [elsewhere] nofun sent hmem (of_decide_eq_true hforeign) e he
  cases hx

/-- The API key is sent to the host that the redirect names. -/
theorem api_key_follows_redirect : let auth : HttpAuthSpec :=
      { type := .apiKey, apiKey := some ⟨"X-Api-Key", ⟨"payments", "key"⟩⟩ }
    let req := chargeRequest ("X-Api-Key", "s3cret")
    Completes (paymentEnv auth) () charge.run () (.ok (req, "/charge", ⟨some (30 * second)⟩)) ∧
      ∃ sent ∈ sentRequests hostOf (outRequest payLib req) [elsewhere],
        sameSite hostOf (outRequest payLib req) sent.url = false ∧
          ("X-Api-Key", "s3cret") ∈ sent.headers := by
  refine ⟨charge_completes _ _ _ (by decide +kernel), _,
    List.mem_cons_of_mem _ List.mem_cons_self, ?_⟩
  decide +kernel

end KubeZap
