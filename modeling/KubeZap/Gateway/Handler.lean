import KubeZap.Api.Triggered
import KubeZap.Gateway.Routes

/-! # Request handler of the webhook gateway

`handler.go` and `realClientIP` of `accesslog.go`: authentication, the cooldown
check and the FlowRun of a request that passes both. One call of `ServeHTTP` looks
its route up once, and reads and writes the cooldown table once.
-/

namespace KubeZap

open Function

/-! ## Library functions -/

abbrev IPAddress := List UInt8

structure HttpLib extends BytesLib where
  /-- `strings.ToUpper` -/
  toUpper : String → String
  /-- `strings.ToLower` -/
  toLower : String → String
  /-- `http.CanonicalHeaderKey` -/
  canonicalHeaderKey : String → String
  hmacHex : String → Bytes → String
  /-- `strconv.ParseInt(s, 10, 64)` -/
  parseInt : String → Option Int
  /-- `r.BasicAuth`, from the value of the header -/
  basicAuth : String → Option (String × String)
  /-- `net.ParseIP`, in its 16-byte form -/
  parseIP : String → Option IPAddress
  /-- `net.ParseCIDR`, as the addresses it contains -/
  parseCIDR : String → Option (IPAddress → Bool)
  /-- The host of `net.SplitHostPort` -/
  splitHostPort : String → Option String
  /-- `strings.Split(s, ",")` -/
  splitComma : String → List String
deriving Inhabited

/-! ## Requests -/

structure Request where
  method : String
  path : String
  header : StringMap (List String)
  body : Except String Bytes
  contentLength : Int
  remoteAddr : String

def Request.get (lib : HttpLib) (r : Request) (name : String) : String :=
  ((r.header.lookup (lib.canonicalHeaderKey name)).bind List.head?).getD ""

def isTrustedProxy (lib : HttpLib) (host : String) (trustedProxies : List (IPAddress → Bool)) :
    Bool :=
  match lib.parseIP host with
  | none => false
  | some ip => trustedProxies.any fun cidr => cidr ip

def maxForwardedForHops : Nat := 32

/-- The entries of `X-Forwarded-For` from the right: the first one that is not a
trusted proxy, else the last one that is not blank. -/
def walkForwarded (lib : HttpLib) (trustedProxies : List (IPAddress → Bool)) :
    String → List String → String
  | leftMost, [] => leftMost
  | leftMost, part :: parts =>
    let entry := trimSpace part
    if entry = "" then walkForwarded lib trustedProxies leftMost parts
    else if !isTrustedProxy lib entry trustedProxies then entry
    else walkForwarded lib trustedProxies entry parts

def realClientIP (lib : HttpLib) (r : Request) (trustedProxies : List (IPAddress → Bool)) :
    String :=
  let host := (lib.splitHostPort r.remoteAddr).getD r.remoteAddr
  if trustedProxies.isEmpty || !isTrustedProxy lib host trustedProxies then host
  else
    let xff := r.get lib "X-Forwarded-For"
    let forwarded :=
      if xff = "" then ""
      else walkForwarded lib trustedProxies ""
        ((lib.splitComma xff).reverse.take maxForwardedForHops)
    if forwarded ≠ "" then forwarded
    else
      let ip := trimSpace (r.get lib "X-Real-IP")
      if ip ≠ "" then ip else host

/-! ## Authentication -/

/-- What a check of credentials sees besides the request: the clock, and the keys
behind an OIDC validator (`none` for a valid token, or the error). -/
structure AuthContext where
  unixNow : Int
  validate : OIDCValidator → String → Option String

def authMsgHMACSignatureMismatch : String := "HMAC signature mismatch"

def verifySlackHMAC (lib : HttpLib) (ctx : AuthContext) (r : Request) (body : Bytes)
    (secret : String) (toleranceSeconds : Int) : Except (Nat × String) Unit :=
  let sigHeader := r.get lib "X-Slack-Signature"
  if sigHeader = "" then .error (401, "missing X-Slack-Signature header") else
  let tsHeader := r.get lib "X-Slack-Request-Timestamp"
  if tsHeader = "" then .error (401, "missing X-Slack-Request-Timestamp header") else
  match lib.parseInt tsHeader with
  | none => .error (401, "invalid X-Slack-Request-Timestamp header")
  | some ts =>
    let tolerance := if toleranceSeconds ≤ 0 then 300 else toleranceSeconds
    let age := ctx.unixNow - ts
    if age > tolerance ∨ age < -tolerance then
      .error (401, "X-Slack-Request-Timestamp outside tolerance window")
    else
      let expected := "v0=" ++ lib.hmacHex secret
        (("v0:" ++ tsHeader ++ ":").toUTF8.toList ++ body)
      if sigHeader ≠ expected then .error (401, authMsgHMACSignatureMismatch) else .ok ()

/-- The address matches a block of the list, or an address of it that is no block. -/
def inAllowlist (lib : HttpLib) (ip : Option IPAddress) (allowlist : List String) : Bool :=
  match ip with
  | none => false
  | some ip => allowlist.any fun cidr =>
    match lib.parseCIDR cidr with
    | none => lib.parseIP cidr == some ip
    | some contains => contains ip

/-- `.ok ()` is the status 200; a failure has its status and message. -/
def authenticateRequest (lib : HttpLib) (ctx : AuthContext)
    (trustedProxies : List (IPAddress → Bool)) (r : Request) (body : Bytes) (entry : RouteEntry) :
    Except (Nat × String) Unit :=
  match entry.authType with
  | none => .ok ()
  | some .hmac =>
    if entry.hmacProvider = some .slack then
      verifySlackHMAC lib ctx r body entry.hmacSecret entry.hmacTimestampToleranceSec
    else
      let sigHeader := r.get lib "X-Hub-Signature-256"
      if sigHeader = "" then .error (401, "missing X-Hub-Signature-256 header")
      else if sigHeader ≠ "sha256=" ++ lib.hmacHex entry.hmacSecret body then
        .error (401, authMsgHMACSignatureMismatch)
      else .ok ()
  | some .bearer =>
    let authHeader := r.get lib "Authorization"
    if authHeader = "" then .error (401, "missing Authorization header")
    else if authHeader ≠ "Bearer " ++ entry.bearerToken then .error (401, "invalid bearer token")
    else .ok ()
  | some .apiKey =>
    let headerName := if entry.apiKeyHeader = "" then "X-Api-Key" else entry.apiKeyHeader
    let val := r.get lib headerName
    if val = "" then .error (401, "missing API key header")
    else if val ≠ entry.apiKey then .error (401, "invalid API key")
    else .ok ()
  | some .oidc =>
    let authHeader := r.get lib "Authorization"
    if authHeader = "" ∨ startsWith authHeader "Bearer " = false then
      .error (401, "\x7b\"error\":\"unauthorized\",\"reason\":\"missing Bearer token\"\x7d")
    else
      match entry.oidcValidator with
      -- A nil validator panics, which the handler recovers from.
      | none => .error (500, "internal server error")
      | some validator =>
        match ctx.validate validator (trimStart authHeader "Bearer ") with
        | none => .ok ()
        | some err =>
          .error (401, "\x7b\"error\":\"unauthorized\",\"reason\":\"" ++ err ++ "\"\x7d")
  | some .basic =>
    match lib.basicAuth (r.get lib "Authorization") with
    | none => .error (401, "missing or malformed Basic auth credentials")
    | some (username, password) =>
      if username ≠ entry.basicUsername ∨ password ≠ entry.basicPassword then
        .error (401, "invalid Basic auth credentials")
      else .ok ()
  | some .ipAllowlist =>
    if inAllowlist lib (lib.parseIP (realClientIP lib r trustedProxies)) entry.ipAllowlist then
      .ok ()
    else .error (403, "source IP not in allowlist")
  | some .headerEquals =>
    if entry.headerEqualsHeader = "" then
      .error (401, "header-equals auth misconfigured: no header name")
    else
      let val := r.get lib entry.headerEqualsHeader
      if val = "" then .error (401, "missing required header")
      else if val ≠ entry.headerEqualsValue then .error (401, "invalid header value")
      else .ok ()

/-! ## Cooldown -/

structure CooldownTracker where
  invocations : String → List Time

def CooldownTracker.new : CooldownTracker := ⟨fun _ => []⟩

/-- The clock is read under the lock, as `now`. -/
def CooldownTracker.allow (ct : CooldownTracker) (path : String) (maxInvocations : Int)
    (window : Duration) (now : Time) : Bool × CooldownTracker :=
  if maxInvocations ≤ 0 then (true, ct)
  else
    let pruned := (ct.invocations path).filter fun ts => now - window < ts
    if wrapInt32 pruned.length ≥ maxInvocations then
      (false, ⟨update ct.invocations path pruned⟩)
    else
      (true, ⟨update ct.invocations path (pruned ++ [now])⟩)

theorem allow_other {ct : CooldownTracker} {path path' : String} (hne : path' ≠ path)
    (maxInvocations : Int) (window : Duration) (now : Time) :
    (ct.allow path maxInvocations window now).2.invocations path' = ct.invocations path' := by
  by_cases hm : maxInvocations ≤ 0
  · rw [CooldownTracker.allow, if_pos hm]
  · rw [CooldownTracker.allow, if_neg hm]
    by_cases hfull : wrapInt32 ((ct.invocations path).filter fun ts => now - window < ts).length ≥
        maxInvocations
    · simp only [if_pos hfull]
      exact update_of_ne hne _ _
    · simp only [if_neg hfull]
      exact update_of_ne hne _ _

/-! ## ServeHTTP -/

structure WebhookHandler where
  trustedProxies : List (IPAddress → Bool) := []
  maxStoredBodyBytes : Nat := 65536

def maxBody : Nat := 4194304

structure Response where
  status : Nat
  body : StringMap String
  allow : Option WebhookMethod := none

def jsonError (status : Nat) (msg : String) : Response := ⟨status, [("error", msg)], none⟩

/-- One call of `ServeHTTP`, with what it meets on its way. -/
structure Exchange where
  request : Request
  auth : AuthContext
  checkedAt : Time
  /-- The clock of the FlowRun's name, in seconds, and what `randomHex(8)` returned. -/
  namedAt : Int
  random : String
  traceparent : String := ""
  tracestate : String := ""
  create : FlowRun → CreateReply

/-- The answer, the cooldown table left behind, and the FlowRun that was to be created. -/
structure Served where
  response : Response
  cooldown : CooldownTracker
  flowRun : Option FlowRun := none

/-- Up to the cooldown check: the route, the method, the body and the credentials. -/
def screen (lib : HttpLib) (h : WebhookHandler) (registry : RouteRegistry) (x : Exchange) :
    Except Response (RouteEntry × Bytes) :=
  match registry.lookup x.request.path with
  | none => .error (jsonError 404 "no trigger registered for this path")
  | some entry =>
    if lib.toUpper x.request.method ≠ entry.allowedMethod.text then
      .error { jsonError 405 "method not allowed" with allow := some entry.allowedMethod }
    else
      match x.request.body with
      | .error _ => .error (jsonError 500 "unable to read request body")
      | .ok stream =>
        let bodyBytes := stream.take (maxBody + 1)
        if bodyBytes.length > maxBody ∨ x.request.contentLength > maxBody then
          .error (jsonError 413 "request body exceeds maximum allowed size")
        else
          match authenticateRequest lib x.auth h.trustedProxies x.request bodyBytes entry with
          | .error (status, msg) => .error (jsonError status msg)
          | .ok () => .ok (entry, bodyBytes)

/-- `read` is what `rand.Read` gives for a buffer of `(length + 1) / 2` bytes. -/
def randomHex (length : Nat) (read : Option Bytes) : String :=
  match read with
  | none => String.ofList (List.replicate length '0')
  | some bytes => String.ofList ((hexDigits bytes).take length)

def webhookFlowRunName (entry : RouteEntry) (x : Exchange) : String :=
  entry.triggerName ++ "-" ++ toString x.namedAt ++ "-" ++ x.random

def webhookFlowRun (lib : HttpLib) (h : WebhookHandler) (entry : RouteEntry) (body : Bytes)
    (x : Exchange) : FlowRun :=
  let storedBody := body.take h.maxStoredBodyBytes
  let (bodyString, bodyEncoding) := encodePayload lib.toBytesLib storedBody
  let traced (key val : String) : StringMap String := if val = "" then [] else [(key, val)]
  triggeredFlowRun ⟨entry.triggerNamespace, webhookFlowRunName entry x⟩ entry.triggerName .webhook
    entry.flowRef
    { source := "webhook"
      method := x.request.method
      path := x.request.path
      headers := redactHeaders lib.toLower x.request.header entry.redactHeaders
      body := redactedBody bodyString entry.redactBody
      bodyTruncated := decide (body.length > h.maxStoredBodyBytes)
      bodyEncoding := if entry.redactBody then "utf8" else bodyEncoding
      contentType := x.request.get lib "Content-Type" }
    (traced "kubezap.io/traceparent" x.traceparent ++ traced "kubezap.io/tracestate" x.tracestate)

def fire (lib : HttpLib) (h : WebhookHandler) (ct : CooldownTracker) (entry : RouteEntry)
    (body : Bytes) (x : Exchange) : Served :=
  let flowRun := webhookFlowRun lib h entry body x
  let accepted : Response :=
    ⟨202, [("flowRun", webhookFlowRunName entry x), ("namespace", entry.triggerNamespace)], none⟩
  match x.create flowRun with
  | .created | .alreadyExists => ⟨accepted, ct, some flowRun⟩
  | .failed _ => ⟨jsonError 500 "unable to create FlowRun", ct, some flowRun⟩

def serveHTTP (lib : HttpLib) (h : WebhookHandler) (registry : RouteRegistry)
    (ct : CooldownTracker) (x : Exchange) : Served :=
  match screen lib h registry x with
  | .error response => ⟨response, ct, none⟩
  | .ok (entry, body) =>
    if 0 < entry.maxInvocations then
      let (allowed, ct) :=
        ct.allow x.request.path entry.maxInvocations entry.cooldownWindow x.checkedAt
      if allowed then fire lib h ct entry body x
      else ⟨jsonError 429 "cooldown window exceeded", ct, none⟩
    else fire lib h ct entry body x

/-! ## What an answer says -/

section Answers

variable {lib : HttpLib} {h : WebhookHandler} {registry : RouteRegistry} {ct : CooldownTracker}
variable {x : Exchange} {entry : RouteEntry} {body : Bytes}

theorem screen_passed (hs : screen lib h registry x = .ok (entry, body)) :
    registry.lookup x.request.path = some entry ∧ x.request.body = .ok body ∧
      authenticateRequest lib x.auth h.trustedProxies x.request body entry = .ok () := by
  unfold screen at hs
  cases hl : registry.lookup x.request.path with
  | none => simp [hl] at hs
  | some e =>
    simp only [hl] at hs
    split at hs
    · cases hs
    · split at hs
      · cases hs
      · rename_i stream hstream
        split at hs
        · cases hs
        · rename_i hsmall
          have hshort : stream.take (maxBody + 1) = stream := by
            rw [not_or, Nat.not_lt, List.length_take] at hsmall
            exact List.take_of_length_le (by omega)
          rw [hshort] at hs
          split at hs
          · cases hs
          · rename_i hauth
            cases hs
            exact ⟨rfl, hstream, hauth⟩

theorem screen_ok (hs : screen lib h registry x = .ok (entry, body)) :
    registry.lookup x.request.path = some entry :=
  (screen_passed hs).1

@[simp] theorem fire_flowRun :
    (fire lib h ct entry body x).flowRun = some (webhookFlowRun lib h entry body x) := by
  cases hc : x.create (webhookFlowRun lib h entry body x) <;> simp [fire, hc]

@[simp] theorem fire_cooldown : (fire lib h ct entry body x).cooldown = ct := by
  cases hc : x.create (webhookFlowRun lib h entry body x) <;> simp [fire, hc]

theorem serveHTTP_screened {flowRun : FlowRun}
    (hrun : (serveHTTP lib h registry ct x).flowRun = some flowRun) :
    ∃ entry body, screen lib h registry x = .ok (entry, body) ∧
      flowRun = webhookFlowRun lib h entry body x := by
  unfold serveHTTP at hrun
  cases hs : screen lib h registry x with
  | error response => simp [hs] at hrun
  | ok found =>
    obtain ⟨entry, body⟩ := found
    refine ⟨entry, body, rfl, ?_⟩
    simp only [hs] at hrun
    split at hrun
    · split at hrun
      · simpa using hrun.symm
      · cases hrun
    · simpa using hrun.symm

theorem authenticateRequest_status {ctx : AuthContext} {trustedProxies : List (IPAddress → Bool)}
    {r : Request} {status : Nat} {msg : String}
    (ha : authenticateRequest lib ctx trustedProxies r body entry = .error (status, msg)) :
    status = 401 ∨ status = 403 ∨ status = 500 := by
  unfold authenticateRequest at ha
  cases htype : entry.authType with
  | none => simp [htype] at ha
  | some type =>
    cases type <;> simp only [htype] at ha
    case hmac =>
      split at ha
      · unfold verifySlackHMAC at ha
        grind
      · grind
    all_goals grind

theorem screen_error {response : Response} (hs : screen lib h registry x = .error response) :
    400 ≤ response.status ∧ response.status ≠ 429 := by
  unfold screen at hs
  cases hl : registry.lookup x.request.path with
  | none =>
    simp only [hl] at hs
    cases hs
    simp [jsonError]
  | some e =>
    simp only [hl] at hs
    split at hs
    · cases hs
      simp [jsonError]
    · split at hs
      · cases hs
        simp [jsonError]
      · split at hs
        · cases hs
          simp [jsonError]
        · split at hs
          next status msg ha =>
            cases hs
            rcases authenticateRequest_status ha with rfl | rfl | rfl <;> simp [jsonError]
          · cases hs

theorem fire_accepted :
    (fire lib h ct entry body x).response.status = 202 ↔
      ∀ err, x.create (webhookFlowRun lib h entry body x) ≠ .failed err := by
  cases hc : x.create (webhookFlowRun lib h entry body x) <;> simp [fire, hc, jsonError]

theorem fire_status : (fire lib h ct entry body x).response.status ≠ 429 := by
  cases hc : x.create (webhookFlowRun lib h entry body x) <;> simp [fire, hc, jsonError]

theorem serveHTTP_limited (hs : screen lib h registry x = .ok (entry, body))
    (hm : 0 < entry.maxInvocations) :
    serveHTTP lib h registry ct x =
      if (ct.allow x.request.path entry.maxInvocations entry.cooldownWindow x.checkedAt).1 then
        fire lib h
          (ct.allow x.request.path entry.maxInvocations entry.cooldownWindow x.checkedAt).2
          entry body x
      else
        ⟨jsonError 429 "cooldown window exceeded",
          (ct.allow x.request.path entry.maxInvocations entry.cooldownWindow x.checkedAt).2,
          none⟩ := by
  simp only [serveHTTP, hs, if_pos hm]

theorem serveHTTP_accepted (ha : (serveHTTP lib h registry ct x).response.status = 202) :
    ∃ entry body, screen lib h registry x = .ok (entry, body) ∧
      (serveHTTP lib h registry ct x).flowRun = some (webhookFlowRun lib h entry body x) ∧
      ∀ err, x.create (webhookFlowRun lib h entry body x) ≠ .failed err := by
  cases hs : screen lib h registry x with
  | error response =>
    have hstatus := (screen_error hs).1
    simp only [serveHTTP, hs] at ha
    omega
  | ok found =>
    obtain ⟨entry, body⟩ := found
    refine ⟨entry, body, rfl, ?_⟩
    by_cases hm : 0 < entry.maxInvocations
    · rw [serveHTTP_limited hs hm] at ha ⊢
      split at ha
      next hallowed =>
        rw [if_pos hallowed]
        exact ⟨fire_flowRun, fire_accepted.mp ha⟩
      · simp [jsonError] at ha
    · simp only [serveHTTP, hs, if_neg hm] at ha ⊢
      exact ⟨fire_flowRun, fire_accepted.mp ha⟩

theorem serveHTTP_cooldown_of_ne {path : String} (hne : path ≠ x.request.path) :
    (serveHTTP lib h registry ct x).cooldown.invocations path = ct.invocations path := by
  cases hs : screen lib h registry x with
  | error response => simp [serveHTTP, hs]
  | ok found =>
    obtain ⟨entry, body⟩ := found
    by_cases hm : 0 < entry.maxInvocations
    · rw [serveHTTP_limited hs hm]
      split
      · rw [fire_cooldown, allow_other hne]
      · exact allow_other hne _ _ _
    · simp [serveHTTP, hs, hm]

end Answers

/-! ## A plain request -/

def plainHttp : HttpLib := { (default : HttpLib) with toUpper := id, toLower := id }

def plainPost (path : String) (checkedAt : Time) : Exchange where
  request :=
    { method := "POST", path := path, header := [], body := .ok [], contentLength := 0,
      remoteAddr := "192.0.2.1:4711" }
  auth := ⟨0, fun _ _ => none⟩
  checkedAt := checkedAt
  namedAt := 0
  random := "00000000"
  create := fun _ => .created

end KubeZap
