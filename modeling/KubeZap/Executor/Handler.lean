import KubeZap.Executor.Ssrf
import KubeZap.Foundation.Scan

/-! # The HTTP executor's handler

`executor/http/handler.go`: a request of the controller is checked, sent with a client
of its own and answered with what the upstream said. Which connections `net/http` opens
for it, for the request itself and for the redirects it follows, is up to the transport
and the upstreams; each of them goes through `dialContext`.
-/

namespace KubeZap.Executor

open Foundation

structure ExecuteResponse where
  statusCode : Int := 0
  headers : StringMap String := []
  body : List UInt8 := []
  truncated : Bool := false
  error : String := ""

inductive Answer
  | badRequest (text : String)
  | json (resp : ExecuteResponse)

structure Upstream where
  statusCode : Int
  header : StringMap (List String)
  body : Except String (List UInt8)

structure OutRequest where
  method : String
  url : String
  headers : StringMap String
  body : String
  timeoutSeconds : Int

structure ClientTLS where
  insecureSkipVerify : Bool := false
  /-- In addition to the system's certificates. -/
  rootCAs : Option String := none
  certificate : Option (String × String) := none

structure DialReq where
  network : String
  addr : String

abbrev DialReq.Reply : DialReq → Type := fun _ => Except TransportError Unit

/-- How `net/http` and the upstreams carry a request through: the connections it opens one after
the other, each depending on how the earlier ones went, and the outcome. -/
abbrev Transport := ClientTLS → OutRequest →
  Program DialReq DialReq.Reply (Except TransportError Upstream)

structure Handler where
  blockedCIDRs : Option (List IPNet) := none
  bodyLimitBytes : Nat := 4096
  allowTLSSkipVerify : Bool := false
  allowClusterInternal : Bool := false
  /-- An injected client, which has a transport of its own. -/
  client : Option (OutRequest → Except TransportError Upstream) := none

def dialContext (lib : Lib) (h : Handler) (network addr : String) :
    ExecProgram (Except TransportError Unit) := do
  let fail (text : String) : ExecProgram (Except TransportError Unit) := return .error { text := text }
  match splitHostPort addr with
  | .error err => fail ("ssrf_blocked: invalid dial address " ++ lib.quote addr ++ ": " ++ err)
  | .ok (host, port) =>
    if isClusterInternal host then
      if h.allowClusterInternal then Req.send (.rawDialContext network addr)
      else
        fail ("ssrf_blocked: requests to in-cluster service endpoints (.svc.cluster.local) are " ++
          "not permitted from HTTP steps; use a plugin Integration instead")
    else
      match ← resolveAndValidate lib host h.blockedCIDRs with
      | .error err => fail ("ssrf_blocked: " ++ err)
      | .ok [] => fail "index out of range [0] with length 0"
      | .ok (ip :: _) => Req.send (.rawDialContext network (joinHostPort ip.text port))

def connection (lib : Lib) (h : Handler) (dial : DialReq) : ExecProgram (DialReq.Reply dial) := do
  Req.send (.connect dial.network dial.addr)
  dialContext lib h dial.network dial.addr

def clientRootCAs (lib : Lib) (caBundle : String) :
    ExecProgram (Except String (Option String)) := do
  if caBundle = "" then return .ok none
  match ← Req.send .systemCertPool with
  | some err => return .error ("loading system CA pool: " ++ err)
  | none =>
    if lib.appendCertsFromPEM caBundle then return .ok (some caBundle)
    else return .error "failed to parse TLS CA bundle: no valid PEM certificates found"

def clientCertificate (lib : Lib) (cert key : String) : Except String (Option (String × String)) :=
  if cert ≠ "" ∧ key ≠ "" then
    match lib.badKeyPair cert key with
    | some err => .error ("failed to parse TLS client certificate/key: " ++ err)
    | none => .ok (some (cert, key))
  else if cert ≠ "" ∨ key ≠ "" then
    .error "tlsClientCert and tlsClientKey must both be set for client certificate authentication"
  else .ok none

/-- `httpClient`, where no client was injected. -/
def httpClient (lib : Lib) (h : Handler) (req : ExecuteRequest) :
    ExecProgram (Except String ClientTLS) := do
  match ← clientRootCAs lib req.tlsCABundle with
  | .error err => return .error err
  | .ok rootCAs =>
    match clientCertificate lib req.tlsClientCert req.tlsClientKey with
    | .error err => return .error err
    | .ok certificate =>
      return .ok ⟨h.allowTLSSkipVerify && req.tlsSkipVerify, rootCAs, certificate⟩

def containsText (s sub : String) : Bool := (Scan.index s.toList sub.toList).isSome

def classifyTransportError (err : TransportError) : String :=
  match Scan.index err.text.toList "ssrf_blocked:".toList with
  | some idx => String.ofList (err.text.toList.drop idx)
  | none =>
    if err.deadlineExceeded then "timeout: " ++ err.text
    else
      match err.opError with
      | some true => "dns_error: " ++ err.text
      | some false => "upstream_error: " ++ err.text
      | none =>
        if containsText err.text "tls:" || containsText err.text "x509:" ||
            containsText err.text "certificate" then "tls_error: " ++ err.text
        else "upstream_error: " ++ err.text

def allowedMethods : String := "GET POST PUT PATCH DELETE"

def timeoutSeconds (requested : Int) : Int :=
  if requested ≤ 0 then 30 else if requested > 300 then 300 else requested

def setHeaders (lib : Lib) (headers : StringMap String) : StringMap String :=
  headers.foldl (fun header e => header.set (lib.canonicalHeaderKey e.1) e.2) []

def outRequest (lib : Lib) (req : ExecuteRequest) : OutRequest where
  method := lib.toUpper (trimSpace req.method)
  url := req.url
  headers := setHeaders lib req.headers
  body := req.body
  timeoutSeconds := timeoutSeconds req.timeoutSeconds

/-- The answer for a response of the upstream, with its body cut at the limit. -/
def upstreamAnswer (h : Handler) (upstream : Upstream) : ExecuteResponse :=
  match upstream.body with
  | .error err =>
    { statusCode := upstream.statusCode
      error := "upstream_error: failed to read response body: " ++ err }
  | .ok rawBody =>
    { statusCode := upstream.statusCode
      -- of several values of a name the last counts
      headers := upstream.header.filterMap fun (name, values) =>
        values.getLast?.map fun value => (name, value)
      body := rawBody.take h.bodyLimitBytes
      truncated := rawBody.length > h.bodyLimitBytes }

/-- `client.Do`, with the injected client or with one whose connections are made by `connection`. -/
def clientDo (lib : Lib) (transport : Transport) (h : Handler) (req : ExecuteRequest)
    (outReq : OutRequest) : ExecProgram (Except String (Except TransportError Upstream)) := do
  match h.client with
  | some client => return .ok (client outReq)
  | none =>
    match ← httpClient lib h req with
    | .error err => return .error err
    | .ok tls => return .ok (← (transport tls outReq).handle (connection lib h))

def ServeExecute (lib : Lib) (transport : Transport) (h : Handler)
    (decoded : Except String ExecuteRequest) : ExecProgram Answer := do
  match decoded with
  | .error err => return .badRequest ("invalid_request: failed to decode JSON body: " ++ err)
  | .ok req =>
    let method := lib.toUpper (trimSpace req.method)
    if !containsText allowedMethods method || method == "" then
      return .badRequest ("invalid_request: method " ++ lib.quote req.method ++
        " is not allowed; must be one of GET, POST, PUT, PATCH, DELETE")
    if trimSpace req.url = "" then return .badRequest "invalid_request: url is required"
    match checkSSRFPreflight lib req.url h.allowClusterInternal with
    | .error err => return .json { error := "ssrf_blocked: " ++ err }
    | .ok () =>
      match lib.badRequest method req.url with
      | some err =>
        return .json { error := "invalid_request: failed to build HTTP request: " ++ err }
      | none =>
        match ← clientDo lib transport h req (outRequest lib req) with
        | .error err => return .json { error := "invalid_request: " ++ err }
        | .ok (.error err) => return .json { error := classifyTransportError err }
        | .ok (.ok upstream) => return .json (upstreamAnswer h upstream)

end KubeZap.Executor
