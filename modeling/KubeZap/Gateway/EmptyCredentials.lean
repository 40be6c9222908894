import KubeZap.Gateway.StoredCredentials

/-! # Empty credentials

A key of a Secret may be there and be empty. `readSecretKey` refuses only a key that is missing, so
an empty value becomes the credential of a route, and what it opens is up to the way in which a
request is compared with it.
-/

namespace KubeZap

/-- The keys that `buildRouteEntry` reads. -/
def WebhookAuth.secretKeys (auth : WebhookAuth) : List KeySelector :=
  match auth.type with
  | some .hmac => (auth.hmac.map (·.secretRef)).toList
  | some .bearer => (auth.bearer.map (·.tokenSecretRef)).toList
  | some .apiKey => (auth.apiKey.map (·.secretRef)).toList
  | some .basic => auth.basic.elim [] fun cfg =>
    [⟨cfg.secretRef, orDefault cfg.usernameKey "username"⟩,
      ⟨cfg.secretRef, orDefault cfg.passwordKey "password"⟩]
  | some .headerEquals => (auth.headerEquals.map (·.secretRef)).toList
  | some .oidc | some .ipAllowlist | none => []

def Sources.EmptyAt (sources : Sources) (namespace_ : String) (ref : KeySelector) : Prop :=
  ∃ data, sources (.getSecret ⟨namespace_, ref.name⟩) = .ok data ∧ data.lookup ref.key = some ""

/-- `net/http` cuts blanks and tabs off both ends of a value. -/
def Request.Trimmed (r : Request) : Prop :=
  ∀ name vals, (name, vals) ∈ r.header → ∀ val ∈ vals, ∀ c ∈ [' ', '\t'],
    val.toList.head? ≠ some c ∧ val.toList.getLast? ≠ some c

theorem Request.Trimmed.get_last {r : Request} (h : r.Trimmed) (lib : HttpLib) (name : String) :
    (r.get lib name).toList.getLast? ≠ some ' ' := by
  unfold Request.get
  cases hvals : r.header.lookup (lib.canonicalHeaderKey name) with
  | none => simp
  | some vals =>
    obtain ⟨before, after, hheader, -⟩ := List.lookup_eq_some_iff.mp hvals
    cases vals with
    | nil => simp
    | cons val vals =>
      have hmem : (lib.canonicalHeaderKey name, val :: vals) ∈ r.header := by simp [hheader]
      exact (h _ _ hmem val List.mem_cons_self ' ' (by simp)).2

theorem withSecretKey_empty {golib : GoLib} {sources : Sources} {trigger : Trigger}
    {ref : KeySelector} (h : sources.EmptyAt trigger.key.namespace_ ref) (what : String)
    (f : String → BuildProgram (Except String RouteEntry)) :
    ((withSecretKey golib trigger ref.name ref.key what f).replay sources).2 =
      ((f "").replay sources).2 := by
  obtain ⟨data, hdata, hval⟩ := h
  simp [withSecretKey, readSecretKey, Foundation.Program.replay_bind, hdata, hval]

/-- Where the credential itself is what a request has to show, an empty one opens the route to
nobody. -/
theorem empty_credentials_authenticate_nobody {golib : GoLib} {sources : Sources}
    {trigger : Trigger} {webhook : WebhookTrigger} {auth : WebhookAuth} {entry : RouteEntry}
    (hbuild : trigger.build golib sources = some (.ok entry))
    (hwebhook : trigger.spec.webhook = some webhook) (hauth : webhook.auth = some auth)
    (htype : auth.type ∈ [some .bearer, some .apiKey, some .headerEquals])
    (hempty : ∀ ref ∈ auth.secretKeys, sources.EmptyAt trigger.key.namespace_ ref)
    (lib : HttpLib) (handler : WebhookHandler) (registry : RouteRegistry) (ct : CooldownTracker)
    (x : Exchange)
    (hroute : registry.lookup x.request.path = some entry) (htrimmed : x.request.Trimmed) :
    (serveHTTP lib handler registry ct x).response.status ≠ 202 ∧
      (serveHTTP lib handler registry ct x).flowRun = none := by
  have hrefused (body : Bytes) :
      authenticateRequest lib x.auth handler.trustedProxies x.request body entry ≠ .ok () := by
    obtain ⟨served, hserved, hbuilt⟩ := Option.map_eq_some_iff.mp hbuild
    cases hwebhook.symm.trans (Option.ite_none_right_eq_some.mp hserved).2
    obtain ⟨type, _, bearer, _, _, apiKey, _, headerEquals⟩ := auth
    simp only [buildRouteEntry, hauth] at hbuilt
    simp only [List.mem_cons, List.not_mem_nil, or_false] at htype
    rcases htype with rfl | rfl | rfl
    · cases bearer with
      | none => cases hbuilt
      | some cfg =>
        rw [withSecretKey_empty (hempty _ (by simp [WebhookAuth.secretKeys]))] at hbuilt
        cases hbuilt
        have hblank : x.request.get lib "Authorization" ≠ "Bearer " := fun h =>
          htrimmed.get_last lib "Authorization" (by simp [h])
        simp only [authenticateRequest]
        grind
    · cases apiKey with
      | none => cases hbuilt
      | some cfg =>
        rw [withSecretKey_empty (hempty _ (by simp [WebhookAuth.secretKeys]))] at hbuilt
        cases hbuilt
        simp only [authenticateRequest]
        grind
    · cases headerEquals with
      | none => cases hbuilt
      | some cfg =>
        rw [withSecretKey_empty (hempty _ (by simp [WebhookAuth.secretKeys]))] at hbuilt
        cases hbuilt
        simp only [authenticateRequest]
        grind
  cases hscreen : screen lib handler registry x with
  | error response =>
    have hstatus := (screen_error hscreen).1
    simp only [serveHTTP, hscreen, and_true]
    omega
  | ok found =>
    obtain ⟨served, body⟩ := found
    obtain ⟨hlookup, -, hok⟩ := screen_passed hscreen
    cases hroute.symm.trans hlookup
    exact absurd hok (hrefused _)

def blankHook (type : WebhookAuthType) : Trigger where
  metadata := { name := ⟨"default", "partner"⟩ }
  spec :=
    { type := .webhook
      flowRef := "ship"
      webhook := some
        { path := "/partner"
          auth := some
            { type := some type
              hmac := some { secretRef := ⟨"partner", "key"⟩ }
              bearer := some ⟨⟨"partner", "key"⟩⟩
              basic := some { secretRef := "partner" } } } }

def blankSources : Sources
  | .getSecret _ => .ok [("key", ""), ("username", ""), ("password", "")]
  | .getDiscovery _ => .badRequest ""
  | .registerJWKSURL _ => .registered

def blankRegistry (type : WebhookAuthType) : RouteRegistry :=
  ((WatcherState.start blankSources).handled default (blankHook type)).registry

/-- The functions at the values of the two requests below. -/
def blankHttp : HttpLib :=
  { partnerHttp with
    hmacHex := fun key message =>
      if key = "" ∧ message = [] then
        "b613679a0814d9ec772f95d778c35fc5ff1697c493715653c6c712144292c5ad"
      else ""
    basicAuth := fun value => if value = "Basic Og==" then some ("", "") else none }

def postWith (name value : String) : Exchange :=
  let post := plainPost "/partner" 0
  { post with request := { post.request with header := [(name, [value])] } }

/-- Anyone can sign with the empty key, and send an empty name with an empty password. -/
theorem empty_credentials_accepted :
    (serveHTTP blankHttp {} (blankRegistry .hmac) .new (postWith "X-Hub-Signature-256"
      "sha256=b613679a0814d9ec772f95d778c35fc5ff1697c493715653c6c712144292c5ad")).response.status =
        202 ∧
    (serveHTTP blankHttp {} (blankRegistry .basic) .new
      (postWith "Authorization" "Basic Og==")).response.status = 202 := by
  decide +kernel

theorem empty_bearer_refused :
    (serveHTTP blankHttp {} (blankRegistry .bearer) .new
      (postWith "Authorization" "Bearer")).response.status ≠ 202 := by
  have hbuild : (blankHook .bearer).build default blankSources = some (.ok _) := rfl
  have htrimmed : (postWith "Authorization" "Bearer").request.Trimmed := by
    intro name vals hmem
    cases List.mem_singleton.mp hmem
    simp
  exact (empty_credentials_authenticate_nobody hbuild rfl rfl (by decide)
    (List.forall_mem_singleton.mpr ⟨_, rfl, rfl⟩) _ _ _ _ _ rfl htrimmed).1

end KubeZap
