import KubeZap.Api.Types
import KubeZap.Foundation.InternetAddress
import KubeZap.Foundation.Program

/-! # The HTTP executor's blocked ranges

`executor/http/ssrf.go`, and the copy of it in `controller/ssrf.go` as far as the two are
the same: the ranges that are blocked by default, the ranges that a flag adds to them,
and the check of the addresses of a host.
-/

namespace KubeZap

open Foundation

/-- A text that is no range would stop the program at its start. -/
def mustParseCIDRs (cidrs : List String) : List IPNet := cidrs.filterMap IPNet.parseCIDR

/-- The loop of `ParseCIDRList` over the texts between the commas. -/
def parseExtraCIDRs (quote : String → String) (flag : String) :
    List String → List IPNet → Except String (List IPNet)
  | [], result => .ok result
  | raw :: rest, result =>
    let cidr := trimSpace raw
    if cidr = "" then parseExtraCIDRs quote flag rest result
    else
      match IPNet.parseCIDR cidr with
      | none => .error ("invalid CIDR " ++ quote cidr ++ " in " ++ flag ++
          ": invalid CIDR address: " ++ cidr)
      | some ipNet => parseExtraCIDRs quote flag rest (result ++ [ipNet])

def parseCIDRList (defaults : List IPNet) (quote : String → String) (flag extraCIDRs : String) :
    Except String (List IPNet) :=
  if trimSpace extraCIDRs = "" then .ok defaults
  else
    parseExtraCIDRs quote flag ((extraCIDRs.toList.splitOn ',').map String.ofList) defaults

def isBlockedIP (ip : IP) (blockedCIDRs : List IPNet) : Option String :=
  (blockedCIDRs.find? (·.contains ip)).map IPNet.text

theorem isBlockedIP_eq_none {ip : IP} {blockedCIDRs : List IPNet} :
    isBlockedIP ip blockedCIDRs = none ↔ ∀ cidr ∈ blockedCIDRs, cidr.contains ip = false := by
  simp [isBlockedIP]

def isClusterInternal (host : String) : Bool :=
  endsWith host ".svc.cluster.local" || endsWith host ".svc.cluster.local."

namespace Executor

def SSRFBlockedCIDRsV4 : List String :=
  ["10.0.0.0/8", "172.16.0.0/12", "192.168.0.0/16", "127.0.0.0/8", "169.254.0.0/16", "0.0.0.0/8",
    "100.64.0.0/10"]

def SSRFBlockedCIDRsV6 : List String := ["::1/128", "fe80::/10", "fc00::/7"]

def defaultSSRFBlockedCIDRs : List IPNet := mustParseCIDRs (SSRFBlockedCIDRsV4 ++ SSRFBlockedCIDRsV6)

example : (SSRFBlockedCIDRsV4 ++ SSRFBlockedCIDRsV6).all fun c => (IPNet.parseCIDR c).isSome := by
  decide +kernel

def ParseCIDRList (quote : String → String) (extraCIDRs : String) : Except String (List IPNet) :=
  parseCIDRList defaultSSRFBlockedCIDRs quote "--blocked-cidrs" extraCIDRs

/-- What the handler calls of Go's standard library, without the calls of the network. -/
structure Lib where
  /-- `fmt.Sprintf("%q", s)` -/
  quote : String → String
  /-- `strings.ToUpper` -/
  toUpper : String → String
  /-- `url.Parse` and `Hostname` -/
  hostname : String → Except String String
  /-- `http.CanonicalHeaderKey` -/
  canonicalHeaderKey : String → String
  /-- `http.NewRequestWithContext`, where it fails -/
  badRequest : (method url : String) → Option String
  /-- `CertPool.AppendCertsFromPEM`: whether there was a certificate -/
  appendCertsFromPEM : String → Bool
  /-- `tls.X509KeyPair`, where it fails -/
  badKeyPair : (cert key : String) → Option String
deriving Inhabited

def checkSSRFPreflight (lib : Lib) (rawURL : String) (allowClusterInternal : Bool) :
    Except String Unit :=
  match lib.hostname rawURL with
  | .error err => .error ("SSRF check: invalid URL: " ++ err)
  | .ok hostname =>
    if hostname = "" then .error "SSRF check: URL has no hostname"
    else if isClusterInternal hostname && !allowClusterInternal then
      .error ("SSRF check: requests to in-cluster service endpoints (.svc.cluster.local) are " ++
        "not permitted from HTTP steps; use a plugin Integration instead")
    else .ok ()

/-- What `errors.Is` and `errors.As` find in an error of the transport. -/
structure TransportError where
  text : String
  deadlineExceeded : Bool := false
  /-- A `net.OpError`, and whether there is a `net.DNSError` in it. -/
  opError : Option Bool := none

/-- `connect` is the call of `DialContext` by `net/http`, with which a connection begins. -/
inductive Req
  | systemCertPool
  | connect (network addr : String)
  | lookupIPAddr (host : String)
  | rawDialContext (network addr : String)

/-- A lookup is answered with the addresses alone; nobody reads their zones. -/
@[reducible] def Req.Reply : Req → Type
  | .systemCertPool => Option String
  | .connect .. => Unit
  | .lookupIPAddr _ => Except String (List IP)
  | .rawDialContext .. => Except TransportError Unit

abbrev ExecProgram := Program Req Req.Reply

abbrev Req.send (q : Req) : ExecProgram q.Reply := Program.request q

def validateAddrs (lib : Lib) (hostname : String) (blockedCIDRs : List IPNet) :
    List IP → Except String (List IP)
  | [] => .ok []
  | ip :: rest =>
    match isBlockedIP ip blockedCIDRs with
    | some cidr => .error ("hostname " ++ lib.quote hostname ++ " resolves to blocked IP " ++
        ip.text ++ " (range " ++ cidr ++ ")")
    | none => (validateAddrs lib hostname blockedCIDRs rest).map (ip :: ·)

/-- Nothing is known to be safe without an answer. -/
def validateLookup (lib : Lib) (hostname : String) (blockedCIDRs : List IPNet) :
    Except String (List IP) → Except String (List IP)
  | .error err => .error ("DNS resolution failed for " ++ lib.quote hostname ++ ": " ++ err)
  | .ok addrs =>
    if addrs.length = 0 then
      .error ("DNS resolution for " ++ lib.quote hostname ++ " returned no addresses")
    else validateAddrs lib hostname blockedCIDRs addrs

def resolveAndValidate (lib : Lib) (hostname : String) (blockedCIDRs : Option (List IPNet)) :
    ExecProgram (Except String (List IP)) := do
  let blockedCIDRs := blockedCIDRs.getD defaultSSRFBlockedCIDRs
  match IP.parse hostname with
  | some ip =>
    match isBlockedIP ip blockedCIDRs with
    | some cidr => return .error ("target IP " ++ ip.text ++ " is in blocked range " ++ cidr)
    | none => return .ok [ip]
  | none => return validateLookup lib hostname blockedCIDRs (← Req.send (.lookupIPAddr hostname))

end Executor

end KubeZap
