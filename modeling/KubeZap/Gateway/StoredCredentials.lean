import KubeZap.Gateway.Handler
import KubeZap.Gateway.Watcher

/-! # Credentials in stored headers

The headers of a request are stored with its FlowRun, without those that carry a credential. Which
header that is depends on the route; what is left out is a fixed list of names and those that the
Trigger adds to it.
-/

namespace KubeZap

structure HttpLib.ReadsHeaders (lib : HttpLib) : Prop where
  /-- A name in canonical form differs in the case of its letters only. -/
  canonical : ∀ name, lib.toLower (lib.canonicalHeaderKey name) = lib.toLower name
  noCredentials : lib.basicAuth "" = none

/-- The header that `authenticateRequest` compares. -/
def RouteEntry.credentialHeader (entry : RouteEntry) : Option String :=
  match entry.authType with
  | some .hmac =>
    some (if entry.hmacProvider = some .slack then "X-Slack-Signature" else "X-Hub-Signature-256")
  | some .bearer | some .basic | some .oidc => some "Authorization"
  | some .apiKey => some (if entry.apiKeyHeader = "" then "X-Api-Key" else entry.apiKeyHeader)
  | some .headerEquals => some entry.headerEqualsHeader
  | some .ipAllowlist | none => none

/-- Where the header is not one of a fixed name on the list, it is on the list all the same or the
Trigger has it redacted. -/
def RouteEntry.Listed (lib : HttpLib) (entry : RouteEntry) : Prop :=
  match entry.authType with
  | some .hmac => entry.hmacProvider = some .slack →
      isRedacted lib.toLower entry.redactHeaders "X-Slack-Signature"
  | some .apiKey => entry.apiKeyHeader ≠ "" →
      isRedacted lib.toLower entry.redactHeaders entry.apiKeyHeader
  | some .headerEquals => isRedacted lib.toLower entry.redactHeaders entry.headerEqualsHeader
  | _ => True

variable {toLower : String → String} {redactExtra : List String}

theorem isRedacted_congr {name name' : String} (h : toLower name = toLower name') :
    isRedacted toLower redactExtra name = isRedacted toLower redactExtra name' := by
  rw [isRedacted, isRedacted, h]

theorem isRedacted_builtIn {name : String}
    (h : name ∈ builtInHeaders) : isRedacted toLower redactExtra name = true := by
  rw [isRedacted, List.any_eq_true]
  exact ⟨name, List.mem_append_left _ h, beq_self_eq_true _⟩

theorem redactHeaders_lookup {headers : StringMap (List String)} {name : String}
    {vals : List String} (h : headers.lookup name = some vals) :
    (redactHeaders toLower headers redactExtra).lookup name =
      some (if isRedacted toLower redactExtra name then redactPlaceholder
        else ",".intercalate vals) := by
  induction headers with
  | nil => cases h
  | cons header headers ih =>
    obtain ⟨name', vals'⟩ := header
    rw [redactHeaders, List.map_cons, List.lookup_cons]
    rw [List.lookup_cons] at h
    cases hmatch : name == name' with
    | true =>
      obtain rfl := beq_iff_eq.mp hmatch
      rw [hmatch] at h
      cases h
      rfl
    | false =>
      rw [hmatch] at h
      exact ih h

section Route

variable {lib : HttpLib} {entry : RouteEntry} {name : String}

theorem RouteEntry.listed_iff (hname : entry.credentialHeader = some name) :
    entry.Listed lib ↔ isRedacted lib.toLower entry.redactHeaders name = true := by
  unfold RouteEntry.Listed
  unfold RouteEntry.credentialHeader at hname
  cases htype : entry.authType with
  | none => simp [htype] at hname
  | some type =>
    simp only [htype] at hname ⊢
    cases type with
    | hmac =>
      cases hname
      by_cases hslack : entry.hmacProvider = some .slack
      · simp only [hslack, if_true, true_imp_iff]
      · simp only [hslack, if_false, false_imp_iff, true_iff]
        exact isRedacted_builtIn (by decide)
    | apiKey =>
      cases hname
      by_cases hdefault : entry.apiKeyHeader = ""
      · simp only [hdefault, if_true, ne_eq, not_true, false_imp_iff, true_iff]
        exact isRedacted_builtIn (by decide)
      · simp only [hdefault, if_false, ne_eq, not_false_iff, true_imp_iff]
    | headerEquals =>
      cases hname
      rfl
    | bearer | basic | oidc =>
      cases hname
      exact iff_of_true trivial (isRedacted_builtIn (by decide))
    | ipAllowlist => cases hname

theorem credential_presented {ctx : AuthContext} {trustedProxies : List (IPAddress → Bool)}
    {r : Request} {body : Bytes} (hlib : lib.ReadsHeaders)
    (hauth : authenticateRequest lib ctx trustedProxies r body entry = .ok ())
    (hname : entry.credentialHeader = some name) : r.get lib name ≠ "" := by
  intro hmissing
  unfold RouteEntry.credentialHeader at hname
  unfold authenticateRequest at hauth
  cases htype : entry.authType with
  | none => simp [htype] at hname
  | some type =>
    simp only [htype] at hauth hname
    cases type with
    | hmac =>
      by_cases hslack : entry.hmacProvider = some .slack
      · rw [if_pos hslack] at hauth hname
        cases hname
        simp [verifySlackHMAC, hmissing] at hauth
      · rw [if_neg hslack] at hauth hname
        cases hname
        simp [hmissing] at hauth
    | bearer | apiKey | oidc =>
      cases hname
      simp [hmissing] at hauth
    | basic =>
      cases hname
      simp [hmissing, hlib.noCredentials] at hauth
    | headerEquals =>
      cases hname
      simp only [hmissing, if_true] at hauth
      split at hauth <;> cases hauth
    | ipAllowlist => cases hname

theorem Request.lookup_of_get {r : Request} (h : r.get lib name ≠ "") :
    ∃ vals, r.header.lookup (lib.canonicalHeaderKey name) = some vals := by
  cases hlookup : r.header.lookup (lib.canonicalHeaderKey name) with
  | none => simp [Request.get, hlookup] at h
  | some vals => exact ⟨vals, rfl⟩

end Route

/-- The header that a request was authenticated by is stored as a placeholder, and so is every
other spelling of its name, where it is listed; where it is not, it is stored as it was sent. -/
theorem credential_header_redacted {lib : HttpLib} {h : WebhookHandler} {registry : RouteRegistry}
    {ct : CooldownTracker} {x : Exchange} {run : FlowRun} {data : TriggerData} {entry : RouteEntry}
    {name : String} (hlib : lib.ReadsHeaders)
    (hrun : (serveHTTP lib h registry ct x).flowRun = some run)
    (hdata : run.spec.triggerData = some data)
    (hentry : registry.lookup x.request.path = some entry)
    (hname : entry.credentialHeader = some name) :
    (entry.Listed lib →
      data.headers.lookup (lib.canonicalHeaderKey name) = some redactPlaceholder ∧
      ∀ other val, (other, val) ∈ data.headers → lib.toLower other = lib.toLower name →
        val = redactPlaceholder) ∧
    (¬ entry.Listed lib → ∃ vals,
      x.request.header.lookup (lib.canonicalHeaderKey name) = some vals ∧
      data.headers.lookup (lib.canonicalHeaderKey name) = some (",".intercalate vals)) := by
  obtain ⟨entry', body, hscreen, rfl⟩ := serveHTTP_screened hrun
  obtain ⟨hlookup, -, hauth⟩ := screen_passed hscreen
  cases hentry.symm.trans hlookup
  cases hdata
  rw [RouteEntry.listed_iff hname, ← isRedacted_congr (hlib.canonical name)]
  obtain ⟨vals, hvals⟩ := Request.lookup_of_get (credential_presented hlib hauth hname)
  have hstored : (redactHeaders lib.toLower x.request.header entry.redactHeaders).lookup _ = _ :=
    redactHeaders_lookup hvals
  refine ⟨fun hredacted => ⟨?_, fun other val hmem hother => ?_⟩, fun hplain => ⟨vals, hvals, ?_⟩⟩
  · rwa [if_pos hredacted] at hstored
  · obtain ⟨⟨other, vals⟩, -, heq⟩ := List.mem_map.mp hmem
    cases heq
    exact if_pos ((isRedacted_congr (hother.trans (hlib.canonical name).symm)).trans hredacted)
  · rwa [if_neg hplain] at hstored

def partnerHttp : HttpLib := { plainHttp with canonicalHeaderKey := id }

/-- A Trigger that takes its key in a header of its own, and has `redactHeaders` left out. -/
def partnerTrigger (redactHeaders : List String) : Trigger where
  metadata := { name := ⟨"default", "partner"⟩ }
  spec :=
    { type := .webhook
      flowRef := "ship"
      webhook := some
        { path := "/partner"
          auth := some
            { type := some .apiKey
              apiKey := some { secretRef := ⟨"partner", "key"⟩, header := "X-Partner-Key" } }
          redactHeaders := redactHeaders } }

def partnerSources : Sources
  | .getSecret _ => .ok [("key", "k3y")]
  | .getDiscovery _ => .badRequest ""
  | .registerJWKSURL _ => .registered

def partnerEntry (redactHeaders : List String) : RouteEntry :=
  { openEntry (partnerTrigger redactHeaders) { path := "/partner", redactHeaders := redactHeaders }
    with authType := some .apiKey, apiKey := "k3y", apiKeyHeader := "X-Partner-Key" }

def partnerRegistry (redactHeaders : List String) : RouteRegistry :=
  RouteRegistry.new.register "/partner" (partnerEntry redactHeaders)

def partnerPost : Exchange :=
  let post := plainPost "/partner" 0
  { post with request := { post.request with header := [("X-Partner-Key", ["k3y"])] } }

def partnerHeaders (redactHeaders : List String) : Option (StringMap String) :=
  ((serveHTTP partnerHttp {} (partnerRegistry redactHeaders) .new partnerPost).flowRun.bind
    (·.spec.triggerData)).map (·.headers)

/-- The key that opens the route is stored as it is. -/
theorem partner_key_stored :
    (partnerTrigger []).build default partnerSources = some (.ok (partnerEntry [])) ∧
      (partnerEntry []).credentialHeader = some "X-Partner-Key" ∧
      partnerHeaders [] = some [("X-Partner-Key", "k3y")] :=
  ⟨rfl, by decide, by decide +kernel⟩

theorem partner_key_redacted :
    ∃ run data, (serveHTTP partnerHttp {} (partnerRegistry ["X-Partner-Key"]) .new
        partnerPost).flowRun = some run ∧ run.spec.triggerData = some data ∧
      data.headers.lookup "X-Partner-Key" = some redactPlaceholder := by
  have hlisted : (partnerEntry ["X-Partner-Key"]).Listed partnerHttp := fun _ => by decide
  have hlookup : (partnerRegistry ["X-Partner-Key"]).lookup partnerPost.request.path =
      some (partnerEntry ["X-Partner-Key"]) := rfl
  have hrun : (serveHTTP partnerHttp {} (partnerRegistry ["X-Partner-Key"]) .new
      partnerPost).flowRun = some (webhookFlowRun partnerHttp {} (partnerEntry ["X-Partner-Key"]) []
        partnerPost) := rfl
  exact ⟨_, _, hrun, rfl,
    ((credential_header_redacted ⟨fun _ => rfl, rfl⟩ hrun rfl hlookup rfl).1 hlisted).1⟩

end KubeZap
