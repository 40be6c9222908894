import KubeZap.Certs.CertUtil
import KubeZap.Foundation.Objects

/-! # Serving certificate of the admission webhooks

`internal/webhookcerts`: `Ensure` keeps a CA and a leaf in a Secret, writes the leaf to the
replica's disk and the CA into the webhook configuration. It is a program over its
requests to the API server, the disk, the clock and the source of keys, of which every
replica runs its own.
-/

namespace KubeZap.WebhookCerts

open Foundation

structure Options where
  namespace_ : String
  secretName : String
  serviceName : String
  webhookConfigurationName : String
  certDir : String
  certFileName : String := ""
  keyFileName : String := ""
  caValidity : Duration := 0
  certValidity : Duration := 0
  rotateBefore : Duration := 0

def Options.setDefaults (o : Options) : Options :=
  { o with
    certFileName := if o.certFileName = "" then "tls.crt" else o.certFileName
    keyFileName := if o.keyFileName = "" then "tls.key" else o.keyFileName
    caValidity := if o.caValidity = 0 then 10 * 365 * 24 * hour else o.caValidity
    certValidity := if o.certValidity = 0 then 365 * 24 * hour else o.certValidity
    rotateBefore := if o.rotateBefore = 0 then 30 * 24 * hour else o.rotateBefore }

def Options.dnsNames (o : Options) : List String :=
  [o.serviceName ++ "." ++ o.namespace_ ++ ".svc",
    o.serviceName ++ "." ++ o.namespace_ ++ ".svc.cluster.local"]

/-- The elements of a path, the last first: `.` is left out, and `..` takes back the one before. -/
def cleanElements (rooted : Bool) : List (List Char) → List (List Char) → List (List Char)
  | out, [] => out
  | out, elem :: rest =>
    if elem = [] ∨ elem = ['.'] then cleanElements rooted out rest
    else if elem = ['.', '.'] then
      match out with
      | [] => cleanElements rooted (if rooted then [] else [elem]) rest
      | last :: before =>
        cleanElements rooted (if last = ['.', '.'] then elem :: out else before) rest
    else cleanElements rooted (elem :: out) rest

def filepathClean (path : List Char) : List Char :=
  let rooted := path.head? = some '/'
  let cleaned := List.intercalate ['/'] (cleanElements rooted [] (path.splitOn '/')).reverse
  if rooted then '/' :: cleaned else if cleaned = [] then ['.'] else cleaned

def filepathJoin (dir file : String) : String :=
  match [dir, file].filter (· ≠ "") with
  | [] => ""
  | elems => .ofList (filepathClean (List.intercalate ['/'] (elems.map String.toList)))

def Options.certPath (o : Options) : String := filepathJoin o.certDir o.certFileName

def Options.keyPath (o : Options) : String := filepathJoin o.certDir o.keyFileName

def sampleOptions : Options where
  namespace_ := "kubezap-system"
  secretName := "kubezap-webhook-server-cert"
  serviceName := "kubezap-webhook-service"
  webhookConfigurationName := "kubezap-validating-webhook-configuration"
  certDir := "/tmp/k8s-webhook-server/serving-certs"

variable {B : Type}

/-- The four entries of the Secret; one that is absent is read as the empty string. -/
structure CertData (B : Type) where
  caCrt : B
  caKey : B
  tlsCrt : B
  tlsKey : B

structure CertSecret (B : Type) where
  data : CertData B
  resourceVersion : Nat

/-- The `caBundle` of every webhook of the ValidatingWebhookConfiguration. -/
structure WebhookConfiguration (B : Type) where
  caBundles : List B
  resourceVersion : Nat

/-- The Secret and the configuration are those that the options name. -/
inductive CertReq (B : Type)
  | now
  /-- `ecdsa.GenerateKey` -/
  | generateKey
  | getSecret
  | createSecret (data : CertData B)
  | updateSecret (secret : CertSecret B)
  | getConfiguration
  | updateConfiguration (cfg : WebhookConfiguration B)
  | mkdirAll (path : String)
  | readFile (path : String)
  | writeFile (path : String) (data : B)

abbrev CertReply : CertReq B → Type
  | .now => Time
  | .generateKey => Except String KeyId
  | .getSecret => Except ObjectError (CertSecret B)
  | .createSecret _ => Except ObjectError (CertSecret B)
  | .updateSecret _ => Except ObjectError (CertSecret B)
  | .getConfiguration => Except ObjectError (WebhookConfiguration B)
  | .updateConfiguration _ => Except ObjectError Unit
  | .mkdirAll _ => Except String Unit
  | .readFile _ => Except String B
  | .writeFile _ _ => Except String Unit

abbrev CertProgram (B : Type) := Program (CertReq B) (@CertReply B)

def ask (q : CertReq B) : CertProgram B (CertReply q) := Program.request q

inductive CertError
  | api (err : ObjectError)
  | text (err : String)
  | wrap (context : String) (err : CertError)

/-- `fn` is run, and run again up to `retries` times while it ends in a conflict. -/
def repeated {α : Type} (fn : CertProgram B (Except CertError α)) :
    Nat → CertProgram B (Except CertError α)
  | 0 => fn
  | retries + 1 => do
      match ← fn with
      | .error (.api .conflict) => repeated fn retries
      | result => return result

/-- The PEM functions of `certutil` on byte strings `B`, and `retry.RetryOnConflict` of `client-go`
with its default backoff. A value that has been encoded is read back; anything else may be read as
anything or as nothing. A function is retried a number of times, and without its pauses here. -/
structure CertLib (B : Type) where
  empty : B
  parseCertPEM : B → Except String Cert
  parseECPrivateKeyPEM : B → Except String KeyId
  encodeCertPEM : Cert → B
  encodeECPrivateKeyPEM : KeyId → B
  parse_encodeCert : ∀ cert, parseCertPEM (encodeCertPEM cert) = .ok cert
  parse_encodeKey : ∀ key, parseECPrivateKeyPEM (encodeECPrivateKeyPEM key) = .ok key
  encodeCert_ne : ∀ cert, encodeCertPEM cert ≠ empty
  encodeKey_ne : ∀ key, encodeECPrivateKeyPEM key ≠ empty
  retryOnConflict {α : Type} (fn : CertProgram B (Except CertError α)) :
    CertProgram B (Except CertError α)
  retries {α : Type} (fn : CertProgram B (Except CertError α)) :
    ∃ retries, retryOnConflict fn = repeated fn retries

/-- Byte strings by what they are an encoding of. -/
inductive PemBlock
  | empty
  | cert (cert : Cert)
  | key (key : KeyId)
  | garbage
deriving DecidableEq

def PemBlock.lib : CertLib PemBlock where
  empty := .empty
  parseCertPEM
    | .cert c => .ok c
    | _ => .error "no PEM block found"
  parseECPrivateKeyPEM
    | .key k => .ok k
    | _ => .error "no PEM block found"
  encodeCertPEM := .cert
  encodeECPrivateKeyPEM := .key
  parse_encodeCert := fun _ => rfl
  parse_encodeKey := fun _ => rfl
  encodeCert_ne := nofun
  encodeKey_ne := nofun
  retryOnConflict := fun fn => repeated fn 4
  retries := fun _ => ⟨4, rfl⟩

variable (lib : CertLib B) (opts : Options)

def secretData (caCert : Cert) (caKey : KeyId) (leaf : TLSCertificate) :
    CertData B where
  caCrt := lib.encodeCertPEM caCert
  caKey := lib.encodeECPrivateKeyPEM caKey
  tlsCrt := lib.encodeCertPEM leaf.leaf
  tlsKey := lib.encodeECPrivateKeyPEM leaf.privateKey

def issueServingCert (caCert : Cert) (caKey : KeyId) (now : Time) :
    CertProgram B (Except CertError TLSCertificate) := do
  match ← ask .generateKey with
  | .error err => return .error (.text err)
  | .ok leafKey =>
    return (issueLeafCert caCert caKey ("CN=" ++ opts.serviceName) opts.dnsNames .serverAuth
      leafKey now (now + opts.certValidity)).mapError .text

def createSecret (lib : CertLib B) (opts : Options) :
    CertProgram B (Except CertError (CertSecret B)) := do
  let now ← ask .now
  match ← ask .generateKey with
  | .error err => return .error (.text err)
  | .ok caKey =>
    let caCert :=
      generateCA "CN=kubezap-webhook-ca,O=kubezap.io" caKey now (now + opts.caValidity)
    (issueServingCert opts caCert caKey now).tryThen fun leafCert => do
      match ← ask (.createSecret (secretData lib caCert caKey leafCert)) with
      | .error err => return .error (.api err)
      | .ok secret => return .ok secret

/-- One round of `rotateLeaf`: the leaf is put into the Secret as it is read. -/
def rotateLeafOnce (caCert : Cert) (caKey : KeyId) :
    CertProgram B (Except CertError (CertSecret B)) := do
  match ← ask .getSecret with
  | .error err => return .error (.api err)
  | .ok current =>
    let now ← ask .now
    (issueServingCert opts caCert caKey now).tryThen fun leafCert => do
      let data := secretData lib caCert caKey leafCert
      match ← ask (.updateSecret { current with data := data }) with
      | .error err => return .error (.api err)
      | .ok updated => return .ok updated

def rotateLeaf (secret : CertSecret B) : CertProgram B (Except CertError (CertSecret B)) :=
  match lib.parseCertPEM secret.data.caCrt, lib.parseECPrivateKeyPEM secret.data.caKey with
  | .ok caCert, .ok caKey =>
    lib.retryOnConflict (rotateLeafOnce lib opts caCert caKey)
  | _, _ => createSecret lib opts

def needsLeafRotation [DecidableEq B] (data : CertData B) (now : Time) : Bool :=
  if data.tlsCrt = lib.empty ∨ data.tlsKey = lib.empty ∨ data.caCrt = lib.empty then true
  else
    match lib.parseCertPEM data.tlsCrt with
    | .error _ => true
    | .ok cert => decide (cert.notAfter < now + opts.rotateBefore)

/-- The clock is read where the certificate's time is compared; where no comparison is made, its
value makes no difference. -/
def rotateIfNeeded [DecidableEq B] (secret : CertSecret B) :
    CertProgram B (Except CertError (CertSecret B)) := do
  let now ← ask .now
  if needsLeafRotation lib opts secret.data now then rotateLeaf lib opts secret
  else return .ok secret

def ensureSecret [DecidableEq B] :
    CertProgram B (Except CertError (CertSecret B)) := do
  match ← ask .getSecret with
  | .error .notFound =>
    match ← createSecret lib opts with
    | .ok created => return .ok created
    | .error (.api .alreadyExists) =>
      match ← ask .getSecret with
      | .error err => return .error (.api err)
      | .ok secret => rotateIfNeeded lib opts secret
    | .error err => return .error err
  | .error err => return .error (.api err)
  | .ok secret => rotateIfNeeded lib opts secret

def writeIfChanged [DecidableEq B] (path : String) (data : B) :
    CertProgram B (Except CertError Unit) := do
  let write : CertProgram B (Except CertError Unit) := do
    return (← ask (.writeFile path data)).mapError .text
  match ← ask (.readFile path) with
  | .ok existing => if existing = data then return .ok () else write
  | .error _ => write

def writeCertFiles [DecidableEq B] (data : CertData B) :
    CertProgram B (Except CertError Unit) := do
  match ← ask (.mkdirAll opts.certDir) with
  | .error err => return .error (.text err)
  | .ok () =>
    (writeIfChanged opts.certPath data.tlsCrt).tryThen fun _ =>
      writeIfChanged opts.keyPath data.tlsKey

/-- The pair is on the disk. With one file for both, only the key is. -/
structure OnDisk (opts : Options) (files : String → Option B) (data : CertData B) : Prop where
  key : files opts.keyPath = some data.tlsKey
  cert : opts.certPath ≠ opts.keyPath → files opts.certPath = some data.tlsCrt

def patchCABundleOnce [DecidableEq B] (caCertPEM : B) : CertProgram B (Except CertError Unit) := do
  match ← ask .getConfiguration with
  | .error err => return .error (.api err)
  | .ok cfg =>
    if cfg.caBundles.all (· = caCertPEM) then return .ok ()
    else
      let patched := cfg.caBundles.map fun caBundle =>
        if caBundle ≠ caCertPEM then caCertPEM else caBundle
      return (← ask (.updateConfiguration { cfg with caBundles := patched })).mapError .api

def patchCABundle [DecidableEq B] (caCertPEM : B) : CertProgram B (Except CertError Unit) :=
  lib.retryOnConflict (patchCABundleOnce caCertPEM)

def publish [DecidableEq B] (data : CertData B) :
    CertProgram B (Except CertError Unit) := do
  match ← writeCertFiles opts data with
  | .error err => return .error (.wrap "writing cert files to disk: " err)
  | .ok () =>
    match ← patchCABundle lib data.caCrt with
    -- Without a configuration there is nothing to patch.
    | .error (.api .notFound) => return .ok ()
    | .error err => return .error (.wrap "patching webhook caBundle: " err)
    | .ok () => return .ok ()

def ensure [DecidableEq B] (options : Options) :
    CertProgram B (Except CertError Unit) := do
  let opts := options.setDefaults
  match ← ensureSecret lib opts with
  | .error err => return .error (.wrap "ensuring cert secret: " err)
  | .ok secret => publish lib opts secret.data

end KubeZap.WebhookCerts
