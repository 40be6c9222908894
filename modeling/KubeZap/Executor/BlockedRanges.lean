import KubeZap.Executor.DialSafety

/-! # From the operator's flag to the executor's blocked ranges

The operator reads the ranges that a cluster adds to the blocked ones (`cmd/main.go`),
checks the URL of an HTTP step against them (`controller/ssrf.go`) and deploys the
executor (`controller/executor_reconciler.go`), which reads its own flags
(`cmd/http-executor/main.go`). The check and the connection resolve the host separately,
so only the ranges of the executor bind the connection.
-/

namespace KubeZap

open Foundation Executor

/-! ## The operator -/

namespace Operator

def defaultSSRFBlockedCIDRs : List IPNet :=
  mustParseCIDRs ["10.0.0.0/8", "172.16.0.0/12", "192.168.0.0/16", "127.0.0.0/8", "169.254.0.0/16",
    "0.0.0.0/8", "::1/128", "fe80::/10", "fc00::/7", "100.64.0.0/10"]

def ParseCIDRList (quote : String → String) (extraCIDRs : String) : Except String (List IPNet) :=
  parseCIDRList defaultSSRFBlockedCIDRs quote "--http-step-blocked-cidrs" extraCIDRs

/-- The loop of `checkSSRF` over the addresses of a host. -/
def checkAddrs (lib : Lib) (hostname : String) (blockedCIDRs : List IPNet) :
    List IP → Except String Unit
  | [] => .ok ()
  | ip :: rest =>
    match isBlockedIP ip blockedCIDRs with
    | some cidr => .error ("SSRF check: hostname " ++ lib.quote hostname ++
        " resolves to blocked IP " ++ ip.text ++ " (range " ++ cidr ++ ")")
    | none => checkAddrs lib hostname blockedCIDRs rest

def checkLookup (lib : Lib) (hostname : String) (blockedCIDRs : List IPNet) :
    Except String (List IP) → Except String Unit
  | .error err =>
    .error ("SSRF check: DNS resolution failed for " ++ lib.quote hostname ++ ": " ++ err)
  | .ok addrs => checkAddrs lib hostname blockedCIDRs addrs

def checkSSRF (lib : Lib) (rawURL : String) (blockedCIDRs : List IPNet)
    (allowClusterInternal : Bool) : ExecProgram (Except String Unit) := do
  match lib.hostname rawURL with
  | .error err => return .error ("SSRF check: invalid URL: " ++ err)
  | .ok hostname =>
    if hostname = "" then return .error "SSRF check: URL has no hostname"
    else if isClusterInternal hostname then
      if allowClusterInternal then return .ok ()
      else return .error ("SSRF check: requests to in-cluster service endpoints " ++
        "(.svc.cluster.local) are not permitted from HTTP steps; use a plugin Integration instead")
    else
      match IP.parse hostname with
      | some ip =>
        match isBlockedIP ip blockedCIDRs with
        | some cidr => return .error ("SSRF check: target IP " ++ ip.text ++
            " is in blocked range " ++ cidr)
        | none => return .ok ()
      | none =>
        return checkLookup lib hostname blockedCIDRs (← Req.send (.lookupIPAddr hostname))

structure Flags where
  httpStepBlockedCIDRs : String := ""
  ssrfAllowClusterInternal : Bool := false
  executorPort : Int := 8091
  executorMTLS : Bool := false

structure ExecutorReconciler where
  executorPort : Int
  mtlsEnabled : Bool
  ssrfAllowClusterInternal : Bool

def executorReconciler (flags : Flags) : ExecutorReconciler :=
  ⟨wrapInt32 flags.executorPort, flags.executorMTLS, flags.ssrfAllowClusterInternal⟩

def containerArgs (r : ExecutorReconciler) : List String :=
  let port := if r.executorPort ≠ 0 then r.executorPort else 8091
  ["--port=" ++ toString port, "--health-port=8092"] ++
    (if r.ssrfAllowClusterInternal then ["--ssrf-allow-in-cluster=true"] else []) ++
    if r.mtlsEnabled then
      ["--mtls=true", "--tls-cert-file=/etc/kubezap/tls/tls.crt",
        "--tls-key-file=/etc/kubezap/tls/tls.key", "--tls-ca-file=/etc/kubezap/tls/ca.crt"]
    else []

end Operator

/-! ## The executor's process -/

namespace Executor

structure Flags where
  port : Int := 8091
  healthPort : Int := 8092
  blockedCIDRs : String := ""
  bodyLimitBytes : Int := 4096
  allowTLSSkipVerify : Bool := false
  allowClusterInternal : Bool := false
  mtls : Bool := false
  tlsCertFile : String := ""
  tlsKeyFile : String := ""
  tlsCAFile : String := ""
  logLevel : String := "info"

def parseBool (s : String) : Option Bool :=
  if s ∈ ["1", "t", "T", "true", "TRUE", "True"] then some true
  else if s ∈ ["0", "f", "F", "false", "FALSE", "False"] then some false
  else none

inductive FlagName
  | port
  | healthPort
  | blockedCIDRs
  | bodyLimitBytes
  | allowTLSSkipVerify
  | allowClusterInternal
  | mtls
  | tlsCertFile
  | tlsKeyFile
  | tlsCAFile
  | logLevel
deriving DecidableEq

def flagNames : List (String × FlagName) :=
  [("port", .port), ("health-port", .healthPort), ("blocked-cidrs", .blockedCIDRs),
    ("body-limit-bytes", .bodyLimitBytes), ("allow-tls-skip-verify", .allowTLSSkipVerify),
    ("ssrf-allow-in-cluster", .allowClusterInternal), ("mtls", .mtls),
    ("tls-cert-file", .tlsCertFile), ("tls-key-file", .tlsKeyFile), ("tls-ca-file", .tlsCAFile),
    ("log-level", .logLevel)]

def cutFlag (arg : String) : Option (FlagName × String) :=
  match arg.toList with
  | '-' :: '-' :: rest =>
    match rest.span (· ≠ '=') with
    | (name, '=' :: value) =>
      (flagNames.lookup (String.ofList name)).map fun flag => (flag, String.ofList value)
    | _ => none
  | _ => none

/-- Set one flag; `parseInt` reads a number. -/
def Flags.set (parseInt : String → Option Int) (flags : Flags) (name : FlagName) (value : String) :
    Option Flags :=
  match name with
  | .port => (parseInt value).map fun n => { flags with port := n }
  | .healthPort => (parseInt value).map fun n => { flags with healthPort := n }
  | .blockedCIDRs => some { flags with blockedCIDRs := value }
  | .bodyLimitBytes => (parseInt value).map fun n => { flags with bodyLimitBytes := n }
  | .allowTLSSkipVerify => (parseBool value).map fun b => { flags with allowTLSSkipVerify := b }
  | .allowClusterInternal => (parseBool value).map fun b => { flags with allowClusterInternal := b }
  | .mtls => (parseBool value).map fun b => { flags with mtls := b }
  | .tlsCertFile => some { flags with tlsCertFile := value }
  | .tlsKeyFile => some { flags with tlsKeyFile := value }
  | .tlsCAFile => some { flags with tlsCAFile := value }
  | .logLevel => some { flags with logLevel := value }

/-- `flag.Parse`, for arguments of the form that the Deployment has. -/
def parseFlags (parseInt : String → Option Int) : List String → Flags → Option Flags
  | [], flags => some flags
  | arg :: rest, flags => do
      let (name, value) ← cutFlag arg
      let flags ← flags.set parseInt name value
      parseFlags parseInt rest flags

def buildHandler (lib : Lib) (parseInt : String → Option Int) (args : List String) :
    Option Handler := do
  let flags ← parseFlags parseInt args {}
  if flags.mtls && (flags.tlsCertFile == "" || flags.tlsKeyFile == "" || flags.tlsCAFile == "") then
    none
  else
    match ParseCIDRList lib.quote flags.blockedCIDRs with
    | .error _ => none
    | .ok cidrs =>
      return { blockedCIDRs := some cidrs
               bodyLimitBytes := flags.bodyLimitBytes.toNat
               allowTLSSkipVerify := flags.allowTLSSkipVerify
               allowClusterInternal := flags.allowClusterInternal }

end Executor

/-- An HTTP step: the operator checks the URL, then the executor carries the request out. -/
def httpStep (lib : Lib) (transport : Transport) (cidrs : List IPNet) (allowClusterInternal : Bool)
    (h : Handler) (req : ExecuteRequest) : ExecProgram (Except String Answer) := do
  match ← Operator.checkSSRF lib req.url cidrs allowClusterInternal with
  | .error err => return .error err
  | .ok () => return .ok (← ServeExecute lib transport h (.ok req))

/-! ## The flags of the deployed executor -/

namespace Executor

variable {parseInt : String → Option Int}

theorem cutFlag_port (value : String) : cutFlag ("--port=" ++ value) = some (.port, value) := by
  have hlist : ("--port=" ++ value).toList = '-' :: '-' :: 'p' :: 'o' :: 'r' :: 't' :: '=' ::
      value.toList := by
    rw [String.toList_append]
    rfl
  have hname : flagNames.lookup (String.ofList ['p', 'o', 'r', 't']) = some .port := by decide
  unfold cutFlag
  rw [hlist]
  simp [List.span, List.span.loop, hname]

theorem Flags.set_keeps {flags flags' : Flags} {name : FlagName} {value : String}
    (hset : flags.set parseInt name value = some flags') (hblocked : name ≠ .blockedCIDRs)
    (hallow : name ≠ .allowClusterInternal) :
    flags'.blockedCIDRs = flags.blockedCIDRs ∧
      flags'.allowClusterInternal = flags.allowClusterInternal := by
  cases name with
  | blockedCIDRs => exact absurd rfl hblocked
  | allowClusterInternal => exact absurd rfl hallow
  | tlsCertFile | tlsKeyFile | tlsCAFile | logLevel =>
    cases hset
    exact ⟨rfl, rfl⟩
  | port | healthPort | bodyLimitBytes | allowTLSSkipVerify | mtls =>
    obtain ⟨_, -, rfl⟩ := Option.map_eq_some_iff.mp hset
    exact ⟨rfl, rfl⟩

def otherFlag (arg : String) : Bool :=
  (cutFlag arg).all fun (name, _) => name ≠ .blockedCIDRs && name ≠ .allowClusterInternal

theorem parseFlags_keeps {args : List String} {flags flags' : Flags}
    (hparse : parseFlags parseInt args flags = some flags') (hargs : ∀ arg ∈ args, otherFlag arg) :
    flags'.blockedCIDRs = flags.blockedCIDRs ∧
      flags'.allowClusterInternal = flags.allowClusterInternal := by
  induction args generalizing flags with
  | nil =>
    cases hparse
    exact ⟨rfl, rfl⟩
  | cons arg rest ih =>
    obtain ⟨⟨name, value⟩, hcut, hparse⟩ := Option.bind_eq_some_iff.mp hparse
    obtain ⟨mid, hset, hparse⟩ := Option.bind_eq_some_iff.mp hparse
    have hother := hargs arg List.mem_cons_self
    simp only [otherFlag, hcut, Option.all_some, Bool.and_eq_true, decide_eq_true_eq] at hother
    obtain ⟨hblocked, hallow⟩ := Flags.set_keeps hset hother.1 hother.2
    obtain ⟨hblocked', hallow'⟩ := ih hparse fun a ha => hargs a (List.mem_cons_of_mem _ ha)
    exact ⟨hblocked'.trans hblocked, hallow'.trans hallow⟩

theorem parseFlags_append (args args' : List String) (flags : Flags) :
    parseFlags parseInt (args ++ args') flags =
      (parseFlags parseInt args flags).bind (parseFlags parseInt args') := by
  induction args generalizing flags with
  | nil => rfl
  | cons arg rest ih =>
    simp only [List.cons_append, parseFlags, Option.bind_eq_bind, Option.bind_assoc, ih]

theorem parseFlags_containerArgs {r : Operator.ExecutorReconciler} {flags : Flags}
    (hparse : parseFlags parseInt (Operator.containerArgs r) {} = some flags) :
    flags.blockedCIDRs = "" ∧ flags.allowClusterInternal = r.ssrfAllowClusterInternal := by
  simp only [Operator.containerArgs, parseFlags_append] at hparse
  obtain ⟨mid, hmid, hmtls⟩ := Option.bind_eq_some_iff.mp hparse
  obtain ⟨first, hfirst, hallow⟩ := Option.bind_eq_some_iff.mp hmid
  have hports : first.blockedCIDRs = "" ∧ first.allowClusterInternal = false := by
    refine parseFlags_keeps hfirst ?_
    intro arg harg
    rcases List.mem_pair.mp harg with rfl | rfl
    · simp only [otherFlag, cutFlag_port, Option.all_some]
      rfl
    · decide
  have hcluster : mid.blockedCIDRs = first.blockedCIDRs ∧
      mid.allowClusterInternal = r.ssrfAllowClusterInternal := by
    cases hr : r.ssrfAllowClusterInternal with
    | true =>
      rw [hr] at hallow
      cases hallow
      exact ⟨rfl, rfl⟩
    | false =>
      rw [hr] at hallow
      cases hallow
      exact ⟨rfl, hports.2⟩
  have hlast : flags.blockedCIDRs = mid.blockedCIDRs ∧
      flags.allowClusterInternal = mid.allowClusterInternal := by
    refine parseFlags_keeps hmtls ?_
    split
    · decide
    · exact nofun
  exact ⟨hlast.1.trans (hcluster.1.trans hports.1), hlast.2.trans hcluster.2⟩

theorem buildHandler_containerArgs {lib : Lib} {r : Operator.ExecutorReconciler} {h : Handler}
    (hbuild : buildHandler lib parseInt (Operator.containerArgs r) = some h) :
    h.blocked = defaultSSRFBlockedCIDRs ∧ h.client = none ∧
      h.allowClusterInternal = r.ssrfAllowClusterInternal := by
  obtain ⟨flags, hparse, hbuild⟩ := Option.bind_eq_some_iff.mp hbuild
  obtain ⟨hblocked, hallow⟩ := parseFlags_containerArgs hparse
  have hcidrs : ParseCIDRList lib.quote flags.blockedCIDRs = .ok defaultSSRFBlockedCIDRs := by
    rw [hblocked]
    rfl
  split at hbuild
  · cases hbuild
  · rw [hcidrs] at hbuild
    cases hbuild
    exact ⟨rfl, rfl, hallow⟩

end Executor

/-! ## Dials of a step -/

section Dials

variable {lib : Lib} {h : Handler}

/-- The host ends like a name in the cluster, where that is allowed, and is the one that the
connection was asked for with; or it is an address that the handler permits. -/
def SafeTarget (h : Handler) (tr : List (Event Req.Reply)) (target : String) : Prop :=
  (h.allowClusterInternal ∧ (∃ network, ⟨.connect network target, ()⟩ ∈ tr) ∧
    ∃ host port, splitHostPort target = .ok (host, port) ∧ isClusterInternal host) ∨
  ∃ ip port, target = joinHostPort ip.text port ∧ h.Permits ip

theorem SafeTarget.append {tr : List (Event Req.Reply)} {target : String}
    (hsafe : SafeTarget h tr target) (more : List (Event Req.Reply)) :
    SafeTarget h (tr ++ more) target := by
  rcases hsafe with ⟨hallow, ⟨network, hasked⟩, hhost⟩ | haddr
  · exact .inl ⟨hallow, ⟨network, List.mem_append_left _ hasked⟩, hhost⟩
  · exact .inr haddr

/-- The calls of a step: the operator's lookup comes before those of the executor. -/
inductive StepMoves (h : Handler) : Protocol Stage Req.Reply
  | check (host : String) (answer : Except String (List IP)) :
      StepMoves h .idle (.lookupIPAddr host) answer .idle
  | execute {stage stage' : Stage} {q : Req} {x : q.Reply} :
      Moves h stage q x stage' → StepMoves h stage q x stage'

theorem StepMoves.safe {done : List (Event Req.Reply)} {stage stage' : Stage}
    {network target : String} {x : Except TransportError Unit}
    (hmove : StepMoves h stage (.rawDialContext network target) x stage')
    (hstage : stage.Recorded done) : SafeTarget h done target := by
  cases hmove with
  | execute hmove =>
    cases hmove with
    | cluster x hsplit hinternal hallow =>
      obtain ⟨front, rfl⟩ := hstage
      exact .inl ⟨hallow, ⟨network, by simp⟩, _, _, hsplit, hinternal⟩
    | literal x hsplit hexternal hparse hpermits => exact .inr ⟨_, _, rfl, hpermits⟩
    | resolved x hsplit hmem hpermits => exact .inr ⟨_, _, rfl, hpermits _ hmem⟩

theorem StepMoves.recorded {done : List (Event Req.Reply)} {stage stage' : Stage} {q : Req}
    {x : q.Reply} (hmove : StepMoves h stage q x stage') (hstage : stage.Recorded done) :
    stage'.Recorded (done ++ [⟨q, x⟩]) := by
  cases hmove with
  | check => trivial
  | execute hmove => exact (hmove.admitted hstage).2

theorem follows_checkSSRF (rawURL : String) (cidrs : List IPNet) (allowClusterInternal : Bool) :
    Follows (StepMoves h) Executor.anyReply (fun stage _ => stage = .idle) .idle
      (Operator.checkSSRF lib rawURL cidrs allowClusterInternal) := by
  unfold Operator.checkSSRF
  split
  · rfl
  · split
    · rfl
    · split
      · split <;> rfl
      · split
        · split <;> rfl
        · exact fun x _ => ⟨.idle, .check _ x, rfl⟩

theorem follows_httpStep (transport : Transport) (hclient : h.client = none) (cidrs : List IPNet)
    (allowClusterInternal : Bool) (req : ExecuteRequest) :
    Follows (StepMoves h) Executor.anyReply (fun _ _ => True) .idle
      (httpStep lib transport cidrs allowClusterInternal h req) := by
  refine (follows_checkSSRF req.url cidrs allowClusterInternal).bind ?_
  rintro stage verdict rfl
  cases verdict with
  | error err => trivial
  | ok _ =>
    refine Follows.bind ((follows_ServeExecute transport hclient (.ok req)).widen
      fun _ _ _ _ => .execute) ?_
    exact fun _ _ _ => trivial

theorem httpStep_safe {W : Type} {env : Env W Req.Reply} {w w' : W} {transport : Transport}
    (hclient : h.client = none) {cidrs : List IPNet} {allowClusterInternal : Bool}
    {req : ExecuteRequest} {tr : List (Event Req.Reply)}
    {o : Option (Except String Answer)}
    (hrun : Exec env w (httpStep lib transport cidrs allowClusterInternal h req) tr w' o)
    {network target : String} {x : Except TransportError Unit}
    (hmem : ⟨.rawDialContext network target, x⟩ ∈ tr) : SafeTarget h tr target := by
  obtain ⟨stage, hjoint, -⟩ := hrun.joint (fun _ _ _ _ _ => trivial)
    (follows_httpStep transport hclient cidrs allowClusterInternal req)
  refine (hjoint.history (fun done _ stage => stage.Recorded done ∧ ∀ network target x,
    (⟨.rawDialContext network target, x⟩ : Event Req.Reply) ∈ done → SafeTarget h done target)
    ⟨trivial, nofun⟩ ?_).2 network target x hmem
  intro done _ stage q y _ stage' hdone _ hmove
  refine ⟨hmove.recorded hdone.1, ?_⟩
  intro network target x hmem
  rcases List.mem_append.mp hmem with hold | hnew
  · exact (hdone.2 network target x hold).append _
  · cases List.mem_singleton.mp hnew
    exact (hmove.safe hdone.1).append _

end Dials

/-! ## The configured ranges -/

theorem defaults_agree : ∀ cidr ∈ Operator.defaultSSRFBlockedCIDRs,
    cidr ∈ Executor.defaultSSRFBlockedCIDRs := by
  decide

/-- Every address of the ranges that were added is in one of the default ranges. -/
def CoveredByDefaults (cidrs : List IPNet) : Prop :=
  ∀ cidr ∈ cidrs, cidr ∉ Operator.defaultSSRFBlockedCIDRs → ∀ ip, cidr.contains ip →
    ∃ cidr' ∈ Executor.defaultSSRFBlockedCIDRs, cidr'.contains ip

/-- No connection is asked for with a zoned literal that ends like a name in the cluster. -/
def Zoneless (tr : List (Event Req.Reply)) : Prop :=
  ∀ network addr host port, ⟨.connect network addr, ()⟩ ∈ tr →
    splitHostPort addr = .ok (host, port) → isClusterInternal host → IP.parseZoned host = none

section Uncovered

theorem dialContext_name (lib : Lib) (h : Handler) :
    dialContext lib h "tcp" "example.org:80" =
      .call (.lookupIPAddr "example.org") fun answer =>
        match validateLookup lib "example.org" h.blocked answer with
        | .error err => .pure (.error { text := "ssrf_blocked: " ++ err })
        | .ok [] => .pure (.error { text := "index out of range [0] with length 0" })
        | .ok (ip :: _) => .call (.rawDialContext "tcp" (joinHostPort ip.text "80")) .pure := rfl

/-- The URL has the host `example.org`, and a GET request can be made for it. -/
structure Lib.Reads (lib : Lib) (url : String) : Prop where
  given : trimSpace url ≠ ""
  host : lib.hostname url = .ok "example.org"
  method : lib.toUpper "GET" = "GET"
  built : lib.badRequest "GET" url = none

variable {lib : Lib} {url : String} (hurl : Lib.Reads lib url)

include hurl

theorem Lib.Reads.checkSSRF (cidrs : List IPNet) (allowClusterInternal : Bool) :
    Operator.checkSSRF lib url cidrs allowClusterInternal =
      .call (.lookupIPAddr "example.org")
        fun answer => .pure (Operator.checkLookup lib "example.org" cidrs answer) := by
  unfold Operator.checkSSRF
  rw [hurl.host]
  rfl

theorem Lib.Reads.serveExecute {h : Handler} (hclient : h.client = none) {ip : IP}
    (hpermits : h.Permits ip) {env : Env Unit Req.Reply} (henv : ∀ q x, env () q x ()) :
    Exec env () (ServeExecute lib (directTransport "example.org:80") h
        (.ok { method := "GET", url := url }))
      [⟨.connect "tcp" "example.org:80", ()⟩, ⟨.lookupIPAddr "example.org", .ok [ip]⟩,
        ⟨.rawDialContext "tcp" (joinHostPort ip.text "80"), .ok ()⟩] ()
      (some (.json (upstreamAnswer h ⟨200, [], .ok []⟩))) := by
  have hmethod : lib.toUpper (trimSpace "GET") = "GET" := hurl.method
  have hallowed : (!containsText allowedMethods "GET" || "GET" == "") = false := by decide
  have hcheck : checkSSRFPreflight lib url h.allowClusterInternal = .ok () := by
    unfold checkSSRFPreflight
    rw [hurl.host]
    rfl
  have hvalid : validateLookup lib "example.org" h.blocked (.ok [ip]) = .ok [ip] :=
    validateLookup_ok.mpr ⟨rfl, by simp, by simpa using isBlockedIP_eq_none.mpr hpermits⟩
  unfold ServeExecute
  simp only [hmethod, hallowed, hcheck, hurl.built, hurl.given, if_false, Bool.false_eq_true]
  unfold clientDo
  rw [hclient]
  refine .step (henv _ _) ?_
  simp only [Program.bind, dialContext_name]
  refine .step (henv _ _) ?_
  simp only [Program.bind, hvalid]
  exact .step (henv _ _) (.done _ _)

/-- The operator is given an address that it lets pass, the executor one in a range that it does
not know. -/
theorem Lib.Reads.dialled {h : Handler} (hclient : h.client = none) {cidrs : List IPNet}
    {outside ip : IP} (houtside : ∀ cidr ∈ cidrs, cidr.contains outside = false)
    (hpermits : h.Permits ip) (allowClusterInternal : Bool) {env : Env Unit Req.Reply}
    (henv : ∀ q x, env () q x ()) :
    ∃ tr o, Exec env () (httpStep lib (directTransport "example.org:80") cidrs
        allowClusterInternal h { method := "GET", url := url }) tr () o ∧ Zoneless tr ∧
      ⟨.rawDialContext "tcp" (joinHostPort ip.text "80"), .ok ()⟩ ∈ tr := by
  have hcheck : Operator.checkLookup lib "example.org" cidrs (.ok [outside]) = .ok () := by
    simp [Operator.checkLookup, Operator.checkAddrs, isBlockedIP_eq_none.mpr houtside]
  have hsplit : splitHostPort "example.org:80" = .ok ("example.org", "80") := by decide
  refine ⟨[⟨.lookupIPAddr "example.org", .ok [outside]⟩, ⟨.connect "tcp" "example.org:80", ()⟩,
    ⟨.lookupIPAddr "example.org", .ok [ip]⟩,
    ⟨.rawDialContext "tcp" (joinHostPort ip.text "80"), .ok ()⟩],
    some (.ok (.json (upstreamAnswer h ⟨200, [], .ok []⟩))), ?_, ?_, by simp⟩
  · unfold httpStep
    rw [hurl.checkSSRF]
    refine .step (henv _ _) ?_
    simp only [Program.bind, hcheck]
    exact (hurl.serveExecute hclient hpermits henv).bind (.done () _)
  · intro network addr host port hasked hsplit' hinternal
    obtain ⟨rfl, rfl⟩ : network = "tcp" ∧ addr = "example.org:80" := by simpa using hasked
    cases hsplit.symm.trans hsplit'
    exact absurd hinternal (by decide)

end Uncovered

/-- Whatever names resolve to and upstreams redirect to: where the default ranges cover the
configured ones, the deployed executor blocks every address in them and dials none, unless it is
asked for a zoned literal. Where they do not, and a host can resolve to an address outside the
ranges first, an address inside one is dialled. -/
theorem configured_ranges_hold {lib : Lib} {parseInt : String → Option Int}
    {flags : Operator.Flags} {cidrs : List IPNet} {h : Handler}
    (_ : Operator.ParseCIDRList lib.quote flags.httpStepBlockedCIDRs = .ok cidrs)
    (hdeployed : buildHandler lib parseInt
      (Operator.containerArgs (Operator.executorReconciler flags)) = some h) :
    (CoveredByDefaults cidrs →
      (∀ cidr ∈ cidrs, ∀ ip, cidr.contains ip → ∃ cidr' ∈ h.blocked, cidr'.contains ip) ∧
      ∀ {W : Type} {env : Env W Req.Reply} {w w' : W} {transport : Transport}
        {req : ExecuteRequest} {tr : List (Event Req.Reply)}
        {o : Option (Except String Answer)},
        Exec env w (httpStep lib transport cidrs flags.ssrfAllowClusterInternal h req) tr w' o →
        Zoneless tr → ∀ network target x, ⟨.rawDialContext network target, x⟩ ∈ tr →
          (flags.ssrfAllowClusterInternal ∧ ∃ host port, splitHostPort target = .ok (host, port) ∧
            isClusterInternal host ∧ IP.parseZoned host = none) ∨
          ∃ ip port, target = joinHostPort ip.text port ∧
            ∀ cidr ∈ cidrs, cidr.contains ip = false) ∧
    (¬ CoveredByDefaults cidrs → ∀ url outside, Lib.Reads lib url →
      (∀ cidr ∈ cidrs, cidr.contains outside = false) →
      ∃ (transport : Transport) (tr : List (Event Req.Reply)) (o : Option (Except String Answer)),
        Exec (fun _ _ _ _ => True) () (httpStep lib transport cidrs flags.ssrfAllowClusterInternal h
          { method := "GET", url := url }) tr () o ∧ Zoneless tr ∧
        ∃ cidr ∈ cidrs, ∃ ip port, cidr.contains ip ∧
          ⟨.rawDialContext "tcp" (joinHostPort ip.text port), .ok ()⟩ ∈ tr) := by
  obtain ⟨hblocked, hclient, hallow⟩ := buildHandler_containerArgs hdeployed
  constructor
  · intro hcovered
    have hall : ∀ cidr ∈ cidrs, ∀ ip, cidr.contains ip →
        ∃ cidr' ∈ h.blocked, cidr'.contains ip := by
      intro cidr hcidr ip hip
      rw [hblocked]
      by_cases hdefault : cidr ∈ Operator.defaultSSRFBlockedCIDRs
      · exact ⟨cidr, defaults_agree cidr hdefault, hip⟩
      · exact hcovered cidr hcidr hdefault ip hip
    refine ⟨hall, ?_⟩
    intro W env w w' transport req tr o hrun hzoneless network target x hmem
    rcases httpStep_safe hclient hrun hmem with
      ⟨hallowed, ⟨_, hasked⟩, host, port, hsplit, hinternal⟩ | ⟨ip, port, htarget, hpermits⟩
    · exact .inl ⟨hallow.symm.trans hallowed, host, port, hsplit, hinternal,
        hzoneless _ _ host port hasked hsplit hinternal⟩
    · refine .inr ⟨ip, port, htarget, ?_⟩
      intro cidr hcidr
      by_contra hcontains
      obtain ⟨cidr', hcidr', hip⟩ := hall cidr hcidr ip (by simpa using hcontains)
      exact Bool.false_ne_true ((hpermits cidr' hcidr').symm.trans hip)
  · intro huncovered url outside hurl houtside
    simp only [CoveredByDefaults, not_forall, not_exists, not_and] at huncovered
    obtain ⟨cidr, hcidr, -, ip, hip, hfree⟩ := huncovered
    have hpermits : h.Permits ip := fun cidr' hcidr' =>
      Bool.eq_false_iff.mpr (hfree cidr' (hblocked ▸ hcidr'))
    obtain ⟨tr, o, hrun, hzoneless, hdial⟩ := @Lib.Reads.dialled lib url hurl h hclient cidrs
      outside ip houtside hpermits flags.ssrfAllowClusterInternal (fun _ _ _ _ => True)
      fun _ _ => trivial
    exact ⟨_, tr, o, hrun, hzoneless, cidr, hcidr, ip, "80", hip, hdial⟩

def parsePort (s : String) : Option Int :=
  if s = "8091" then some 8091 else if s = "8092" then some 8092 else none

def privateFlags : Operator.Flags := { httpStepBlockedCIDRs := "10.1.0.0/16" }

def privateRange : IPNet := ⟨⟨[10, 1, 0, 0], .inl rfl⟩, [255, 255, 0, 0]⟩

theorem privateRange_covered {ip : IP} (hip : privateRange.contains ip) :
    ∃ cidr ∈ Executor.defaultSSRFBlockedCIDRs, cidr.contains ip := by
  have hnumber : privateRange.numberAndMask = some ([10, 1, 0, 0], [255, 255, 0, 0]) := by decide
  have hmem : (⟨⟨[10, 0, 0, 0], .inl rfl⟩, [255, 0, 0, 0]⟩ : IPNet) ∈
      Executor.defaultSSRFBlockedCIDRs := by decide
  refine ⟨_, hmem, ?_⟩
  rcases ip.to4_cases with ⟨a, b, c, d, hshort⟩ | ⟨hlong, a, b, t, hbytes, ht⟩
  · have hbytes : 10 &&& 255 = a &&& 255 ∧ 1 &&& 255 = b &&& 255 := by
      simpa [IPNet.contains, hnumber, IP.short, hshort] using hip
    have hten : (⟨⟨[10, 0, 0, 0], .inl rfl⟩, [255, 0, 0, 0]⟩ : IPNet).numberAndMask =
        some ([10, 0, 0, 0], [255, 0, 0, 0]) := by decide
    exact IPNet.contains_short hten hshort hbytes.1.symm (by simp)
  · simp [IPNet.contains, hnumber, IP.short, hlong, hbytes, ht] at hip

theorem private_range_holds : ∃ cidrs h,
    Operator.ParseCIDRList id privateFlags.httpStepBlockedCIDRs = .ok cidrs ∧
    privateRange ∈ cidrs ∧ privateRange ∉ Operator.defaultSSRFBlockedCIDRs ∧
    buildHandler plainLib parsePort
      (Operator.containerArgs (Operator.executorReconciler privateFlags)) = some h ∧
    ∀ cidr ∈ cidrs, ∀ ip, cidr.contains ip → ∃ cidr' ∈ h.blocked, cidr'.contains ip := by
  have haccepted : Operator.ParseCIDRList id privateFlags.httpStepBlockedCIDRs =
      .ok (Operator.defaultSSRFBlockedCIDRs ++ [privateRange]) := by decide
  obtain ⟨h, hdeployed⟩ : ∃ h, buildHandler plainLib parsePort
      (Operator.containerArgs (Operator.executorReconciler privateFlags)) = some h := ⟨_, rfl⟩
  refine ⟨_, h, haccepted, by simp, by decide, hdeployed,
    ((@configured_ranges_hold plainLib _ _ _ _ haccepted hdeployed).1 ?_).1⟩
  intro cidr hcidr hadded ip hip
  rcases List.mem_append.mp hcidr with hdefault | hprivate
  · exact absurd hdefault hadded
  · obtain rfl := List.mem_singleton.mp hprivate
    exact privateRange_covered hip

def publicFlags : Operator.Flags := { httpStepBlockedCIDRs := "203.0.113.0/24" }

def publicRange : IPNet := ⟨⟨[203, 0, 113, 0], .inl rfl⟩, [255, 255, 255, 0]⟩

/-- A name server that gives an answer to the operator and another one to the executor; it counts
the questions. -/
def rebinding (asked : Nat) : (q : Req) → Option (q.Reply × Nat)
  | .systemCertPool => some (none, asked)
  | .connect .. => some ((), asked)
  | .lookupIPAddr _ =>
    some (.ok [if asked = 0 then ⟨[198, 51, 100, 7], .inl rfl⟩ else publicIP], asked + 1)
  | .rawDialContext .. => some (.ok (), asked)

/-- The operator accepts the range and checks the URL against it; the executor it has deployed
then dials an address in the range. -/
theorem public_range_dialled : ∃ cidrs h tr,
    Operator.ParseCIDRList id publicFlags.httpStepBlockedCIDRs = .ok cidrs ∧
    publicRange ∈ cidrs ∧ publicRange.contains publicIP ∧
    buildHandler plainLib parsePort
      (Operator.containerArgs (Operator.executorReconciler publicFlags)) = some h ∧
    Exec (fun asked q x asked' => rebinding asked q = some (x, asked')) 0
      (httpStep plainLib (directTransport "example.org:80") cidrs false h exampleRequest) tr 2
      (some (.ok (.json { statusCode := 200 }))) ∧
    ⟨.rawDialContext "tcp" (joinHostPort publicIP.text "80"), .ok ()⟩ ∈ tr := by
  refine ⟨Operator.defaultSSRFBlockedCIDRs ++ [publicRange], _, _, by decide, by simp,
    by decide, rfl, Program.simulate_exec (fun _ _ _ _ h => h) 0 _, ?_⟩
  exact List.mem_cons_of_mem _ (List.mem_cons_of_mem _ (List.mem_cons_of_mem _ List.mem_cons_self))

end KubeZap
