import KubeZap.Api.Types
import KubeZap.Foundation.Certificates

/-! # Certificates of the operator itself

`internal/certutil`, and the bundles of `executor_mtls.go` and `plugin_mtls.go`: a CA of
its own, with one certificate for the server and one for the controller as its client.
-/

namespace KubeZap

open Foundation

abbrev KeyId := Nat

abbrev Cert := Certificate KeyId

/-- `tls.Certificate`: a leaf with its private key. -/
structure TLSCertificate where
  leaf : Cert
  privateKey : KeyId

/-- Certificates carry times in whole seconds. -/
def truncSecond (t : Time) : Time := t - t % second

/-- `caKey` is the key that was drawn. -/
def generateCA (subject : String) (caKey : KeyId) (notBefore notAfter : Time) : Cert where
  subject := subject
  issuer := subject
  publicKey := caKey
  signer := caKey
  dnsNames := []
  keyUsage := [.certSign, .crlSign]
  extKeyUsage := []
  notBefore := truncSecond notBefore
  notAfter := truncSecond notAfter
  isCA := true

theorem generateCA_signs (subject : String) (caKey : KeyId) (notBefore notAfter : Time) :
    (generateCA subject caKey notBefore notAfter).Signs :=
  ⟨rfl, .inr List.mem_cons_self⟩

/-- `leafKey` is the key that was drawn. -/
def leafCert (caCert : Cert) (caKey : KeyId) (subject : String) (dnsNames : List String)
    (extKeyUsage : ExtKeyUsage) (leafKey : KeyId) (notBefore notAfter : Time) : TLSCertificate where
  leaf :=
    { subject := subject
      issuer := caCert.subject
      publicKey := leafKey
      signer := caKey
      dnsNames := dnsNames
      keyUsage := [.digitalSignature]
      extKeyUsage := [extKeyUsage]
      notBefore := truncSecond notBefore
      notAfter := truncSecond notAfter
      isCA := false }
  privateKey := leafKey

/-- `x509.CreateCertificate` refuses a CA key that is not the one of the CA certificate. -/
def issueLeafCert (caCert : Cert) (caKey : KeyId) (subject : String) (dnsNames : List String)
    (extKeyUsage : ExtKeyUsage) (leafKey : KeyId) (notBefore notAfter : Time) :
    Except String TLSCertificate :=
  if caKey ≠ caCert.publicKey then
    .error "x509: provided PrivateKey doesn't match parent's PublicKey"
  else
    .ok (leafCert caCert caKey subject dnsNames extKeyUsage leafKey notBefore notAfter)

/-- `MTLSBundle` and `PluginMTLSBundle` -/
structure MTLSBundle where
  caCert : Cert
  caKey : KeyId
  serverCert : TLSCertificate
  clientCert : TLSCertificate
  expiresAt : Time

structure BundleKeys where
  ca : KeyId
  server : KeyId
  client : KeyId

def hour : Duration := 60 * minute

/-- The steps that both kinds of bundle are made by; they last for a day. -/
def generateBundle (caSubject serverSubject : String) (serverDNSNames : List String)
    (keys : BundleKeys) (now : Time) : Except String MTLSBundle := do
  let expiry := now + 24 * hour
  let caCert := generateCA caSubject keys.ca now expiry
  let serverCert ←
    issueLeafCert caCert keys.ca serverSubject serverDNSNames .serverAuth keys.server now expiry
  let clientCert ←
    issueLeafCert caCert keys.ca "CN=kubezap-controller" [] .clientAuth keys.client now expiry
  pure ⟨caCert, keys.ca, serverCert, clientCert, expiry⟩

def generateMTLSBundle (serverDNSNames : List String) (keys : BundleKeys) (now : Time) :
    Except String MTLSBundle :=
  generateBundle "CN=kubezap-executor-ca,OU=executor-ca,O=kubezap.io" "CN=kubezap-http-executor"
    serverDNSNames keys now

def generatePluginMTLSBundle (integrationName : String) (serverDNSNames : List String)
    (keys : BundleKeys) (now : Time) : Except String MTLSBundle :=
  generateBundle ("CN=kubezap-plugin-" ++ integrationName ++ "-ca,OU=plugin-mtls-ca,O=kubezap.io")
    ("CN=kubezap-plugin-" ++ integrationName) serverDNSNames keys now

/-- `tls.Config` of a client: the certificates it presents and the roots it trusts. -/
structure ClientTLSConfig where
  certificates : List TLSCertificate
  rootCAs : List Cert

def MTLSBundle.clientTLSConfig (b : MTLSBundle) : ClientTLSConfig := ⟨[b.clientCert], [b.caCert]⟩

def MTLSBundle.needsRotation (b : MTLSBundle) (now : Time) : Bool :=
  decide (b.expiresAt < now + hour)

/-- The server certificate is one of the CA, for the names and for the CA's own time. -/
structure MTLSBundle.Serves (b : MTLSBundle) (serverDNSNames : List String) : Prop where
  issued : b.serverCert.leaf.IssuedBy b.caCert
  names : b.serverCert.leaf.dnsNames = serverDNSNames
  usage : b.serverCert.leaf.extKeyUsage = [.serverAuth]
  caUsage : b.caCert.extKeyUsage = []
  notBefore : b.serverCert.leaf.notBefore = b.caCert.notBefore
  notAfter : b.serverCert.leaf.notAfter = b.caCert.notAfter

theorem MTLSBundle.Serves.verifies {b : MTLSBundle} {serverDNSNames : List String}
    (h : b.Serves serverDNSNames) {roots : List Cert} {host : String} {now : Time}
    (hroot : b.caCert ∈ roots) (hhost : host ∈ serverDNSNames) (hcurrent : b.caCert.CurrentAt now) :
    b.serverCert.leaf.Verifies roots host now := by
  refine ⟨h.names ▸ hhost, .inr ?_, ?_, b.caCert, hroot, h.issued, .inl h.caUsage, hcurrent⟩
  · rw [h.usage]
    exact List.mem_singleton_self _
  · rw [Certificate.CurrentAt, h.notBefore, h.notAfter]
    exact hcurrent

theorem generateBundle_spec (caSubject serverSubject : String) (serverDNSNames : List String)
    (keys : BundleKeys) (now : Time) :
    ∃ b, generateBundle caSubject serverSubject serverDNSNames keys now = .ok b ∧
      b.Serves serverDNSNames ∧ b.caCert.publicKey = keys.ca ∧ b.expiresAt = now + 24 * hour := by
  let ca := generateCA caSubject keys.ca now (now + 24 * hour)
  have hown (subject : String) (names : List String) (usage : ExtKeyUsage) (key : KeyId) :
      issueLeafCert ca keys.ca subject names usage key now (now + 24 * hour) =
        .ok (leafCert ca keys.ca subject names usage key now (now + 24 * hour)) :=
    if_neg (not_not.mpr rfl)
  refine ⟨⟨ca, keys.ca,
    leafCert ca keys.ca serverSubject serverDNSNames .serverAuth keys.server now (now + 24 * hour),
    leafCert ca keys.ca "CN=kubezap-controller" [] .clientAuth keys.client now (now + 24 * hour),
    now + 24 * hour⟩, ?_,
    ⟨⟨generateCA_signs .., rfl, rfl⟩, rfl, rfl, rfl, rfl, rfl⟩, rfl, rfl⟩
  simp only [generateBundle]
  rw [hown, hown]
  rfl

theorem generateMTLSBundle_spec (serverDNSNames : List String) (keys : BundleKeys) (now : Time) :
    ∃ b, generateMTLSBundle serverDNSNames keys now = .ok b ∧
      b.Serves serverDNSNames ∧ b.caCert.publicKey = keys.ca ∧ b.expiresAt = now + 24 * hour :=
  generateBundle_spec _ _ serverDNSNames keys now

theorem generatePluginMTLSBundle_spec (integrationName : String) (serverDNSNames : List String)
    (keys : BundleKeys) (now : Time) :
    ∃ b, generatePluginMTLSBundle integrationName serverDNSNames keys now = .ok b ∧
      b.Serves serverDNSNames ∧ b.caCert.publicKey = keys.ca ∧ b.expiresAt = now + 24 * hour :=
  generateBundle_spec _ _ serverDNSNames keys now

end KubeZap
