import KubeZap.Api.Triggered
import KubeZap.Foundation.Run

/-! # Revoked client certificates at the webhook gateway

`crl.go` and the TLS part of `main.go`. A ConfigMap informer publishes the revocation
list; the TLS server asks `VerifyClientCertNotRevoked` about the client certificate of a
full handshake. The configuration leaves session tickets on, and a session that is resumed
is not asked about: revocation holds for resumed sessions only as far as the list would
still admit them.
-/

namespace KubeZap

open Foundation

/-! ## The revocation list -/

/-- `x509.Certificate`, as far as it is read here. -/
structure ClientCertificate where
  serialNumber : Option Int
  subject : String
deriving DecidableEq

/-- `x509.RevocationList`, with the serial numbers of its revoked entries. -/
structure RevocationList where
  revokedCertificateEntries : List (Option Int)
  nextUpdate : Time

structure CrlConfigMap where
  name : String
  binaryData : StringMap Bytes
  data : StringMap String

structure CrlLib where
  /-- `x509.ParseRevocationList` -/
  parseRevocationList : Bytes → Option RevocationList
  /-- `t.UTC().Format(time.RFC3339)` -/
  rfc3339 : Time → String

def crlConfigMapKey : String := "crl.der"

/-- The content of the key, in `BinaryData` or else in `Data`. -/
def CrlConfigMap.der (cm : CrlConfigMap) : Bytes :=
  let binary := (cm.binaryData.lookup crlConfigMapKey).getD []
  if binary.isEmpty then ((cm.data.lookup crlConfigMapKey).getD "").toUTF8.toList else binary

def handleCRLConfigMap (lib : CrlLib) (crlConfigMapName : String) (cm : CrlConfigMap)
    (crlHolder : Option RevocationList) : Option RevocationList :=
  if cm.name ≠ crlConfigMapName then crlHolder
  else if cm.der.isEmpty then crlHolder
  else
    match lib.parseRevocationList cm.der with
    | none => crlHolder
    | some crl => some crl

def isCRLStale (crl : RevocationList) (now : Time) : Bool := decide (crl.nextUpdate < now)

def revokedSerial (crl : RevocationList) (leaf : ClientCertificate) : Option Int :=
  crl.revokedCertificateEntries.findSome? fun revoked =>
    match leaf.serialNumber, revoked with
    | some serial, some entry => if serial = entry then some serial else none
    | _, _ => none

def verifyClientCertNotRevoked (lib : CrlLib) (crlHolder : Option RevocationList) (now : Time)
    (verifiedChains : List (List ClientCertificate)) : Except String Unit :=
  match crlHolder with
  | none => .ok ()
  | some crl =>
    if isCRLStale crl now then
      .error ("client certificate rejected: mTLS CRL is stale (nextUpdate " ++
        lib.rfc3339 crl.nextUpdate ++ " has passed)")
    else
      match verifiedChains.findSome? fun chain => chain.head?.bind (revokedSerial crl) with
      | some serial =>
        .error ("client certificate rejected: serial " ++ toString serial ++ " is revoked")
      | none => .ok ()

/-! ## The TLS server -/

/-- The fields of `tls.Config` that the gateway sets, and the one for session tickets. -/
structure ServerTLSConfig where
  requireAndVerifyClientCert : Bool := false
  verifyPeerCertificate :
    Option (Option RevocationList → Time → List (List ClientCertificate) → Except String Unit) :=
      none
  sessionTicketsDisabled : Bool := false

def gatewayTLSConfig (lib : CrlLib) (mtlsCAFile : String) : ServerTLSConfig :=
  if mtlsCAFile ≠ "" then
    { requireAndVerifyClientCert := true
      verifyPeerCertificate := some (verifyClientCertNotRevoked lib) }
  else {}

/-- The chains that `crypto/tls` builds from a client certificate to the CA; each begins with
that certificate. -/
structure ClientCAs where
  verify : ClientCertificate → Time → List (List ClientCertificate)
  leaf : ∀ cert now, ∀ chain ∈ verify cert now, chain.head? = some cert

inductive TLSAttempt
  | handshake (presented : Option ClientCertificate)
  | resumption (session : Nat)

/-- The sessions are kept with the certificate they were opened with; their tickets are with the
clients. -/
structure TLSServer where
  crlHolder : Option RevocationList
  sessions : List (Option ClientCertificate)

namespace TLSServer

def start : TLSServer := ⟨none, []⟩

def connect (cfg : ServerTLSConfig) (cas : ClientCAs) (s : TLSServer) (now : Time) :
    TLSAttempt → Option (Option ClientCertificate)
  | .handshake presented =>
    if cfg.requireAndVerifyClientCert then
      match presented with
      | none => none
      | some cert =>
        let verifiedChains := cas.verify cert now
        if verifiedChains.isEmpty then none
        else
          match cfg.verifyPeerCertificate with
          | none => some (some cert)
          | some verify =>
            match verify s.crlHolder now verifiedChains with
            | .ok () => some (some cert)
            | .error _ => none
    else some none
  -- Neither the chain nor the callback is consulted again.
  | .resumption session => if cfg.sessionTicketsDisabled then none else s.sessions[session]?

end TLSServer

/-- An event of the ConfigMap informer, or an attempt to connect with its outcome. -/
inductive TLSEvent
  | configMap (cm : CrlConfigMap)
  | connection (attempt : TLSAttempt) (now : Time) (accepted : Option (Option ClientCertificate))

section Server

variable (lib : CrlLib) (cas : ClientCAs) (crlConfigMapName mtlsCAFile : String)

inductive TLSServer.Step (s : TLSServer) : TLSEvent → TLSServer → Prop
  | configMap (cm : CrlConfigMap) :
      Step s (.configMap cm)
        { s with crlHolder := handleCRLConfigMap lib crlConfigMapName cm s.crlHolder }
  | connection (attempt : TLSAttempt) (now : Time) :
      Step s
        (.connection attempt now (s.connect (gatewayTLSConfig lib mtlsCAFile) cas now attempt))
        { s with sessions := s.sessions ++
            (s.connect (gatewayTLSConfig lib mtlsCAFile) cas now attempt).toList }

/-- A session is resumed only while its certificate would pass a full handshake's check. -/
def TLSServer.ResumesAdmitted (s : TLSServer) : TLSEvent → Prop
  | .connection (.resumption session) now _ =>
    ∀ cert, s.sessions[session]? = some (some cert) →
      verifyClientCertNotRevoked lib s.crlHolder now [[cert]] = .ok ()
  | _ => True

/-! ## What has been loaded -/

/-- The list that a ConfigMap brings, if it is the one configured and can be read. -/
def loadedCRL (cm : CrlConfigMap) : Option RevocationList :=
  handleCRLConfigMap lib crlConfigMapName cm none

/-- A list with this serial number has been loaded, and since then none without it. -/
def RevokedIn (serial : Int) (events : List TLSEvent) : Prop :=
  ∃ earlier cm later crl, events = earlier ++ .configMap cm :: later ∧
    loadedCRL lib crlConfigMapName cm = some crl ∧
    some serial ∈ crl.revokedCertificateEntries ∧
    ∀ cm' crl', .configMap cm' ∈ later → loadedCRL lib crlConfigMapName cm' = some crl' →
      some serial ∈ crl'.revokedCertificateEntries

/-- The time for the next update has passed for the list loaded last. -/
def StaleIn (now : Time) (events : List TLSEvent) : Prop :=
  ∃ earlier cm later crl, events = earlier ++ .configMap cm :: later ∧
    loadedCRL lib crlConfigMapName cm = some crl ∧ crl.nextUpdate < now ∧
    ∀ cm', .configMap cm' ∈ later → loadedCRL lib crlConfigMapName cm' = none

end Server

section Proofs

variable {lib : CrlLib} {cas : ClientCAs} {crlConfigMapName mtlsCAFile : String}
  {s s' : TLSServer} {events : List TLSEvent}

theorem handleCRLConfigMap_eq (cm : CrlConfigMap) (crlHolder : Option RevocationList) :
    handleCRLConfigMap lib crlConfigMapName cm crlHolder =
      (loadedCRL lib crlConfigMapName cm).or crlHolder := by
  unfold loadedCRL handleCRLConfigMap
  split
  · rfl
  · split
    · rfl
    · cases lib.parseRevocationList cm.der <;> rfl

theorem verifyClientCertNotRevoked_ok {crl : RevocationList} {now : Time}
    {verifiedChains : List (List ClientCertificate)} :
    verifyClientCertNotRevoked lib (some crl) now verifiedChains = .ok () ↔
      ¬ crl.nextUpdate < now ∧
        ∀ chain ∈ verifiedChains, ∀ leaf, chain.head? = some leaf → revokedSerial crl leaf = none := by
  unfold verifyClientCertNotRevoked isCRLStale
  by_cases hstale : crl.nextUpdate < now
  · simp [hstale]
  · have hclear : verifiedChains.findSome? (fun chain => chain.head?.bind (revokedSerial crl)) = none ↔
        ∀ chain ∈ verifiedChains, ∀ leaf, chain.head? = some leaf → revokedSerial crl leaf = none := by
      simp only [List.findSome?_eq_none_iff, Option.bind_eq_none_iff]
    rw [← hclear]
    cases hfound : verifiedChains.findSome? fun chain => chain.head?.bind (revokedSerial crl) with
    | some serial => simp [hfound, hstale]
    | none => simp [hfound, hstale]

theorem TLSServer.connect_admitted (hmtls : mtlsCAFile ≠ "") {attempt : TLSAttempt} {now : Time}
    {cert : ClientCertificate} {outcome : Option (Option ClientCertificate)}
    (hresumes : s.ResumesAdmitted lib (.connection attempt now outcome))
    (haccepted : s.connect (gatewayTLSConfig lib mtlsCAFile) cas now attempt = some (some cert)) :
    verifyClientCertNotRevoked lib s.crlHolder now [[cert]] = .ok () := by
  cases attempt with
  | resumption session =>
    simp only [connect, gatewayTLSConfig, if_pos hmtls, Bool.false_eq_true, if_false] at haccepted
    exact hresumes cert haccepted
  | handshake presented =>
    simp only [connect, gatewayTLSConfig, if_pos hmtls, if_true] at haccepted
    cases presented with
    | none => simp at haccepted
    | some presented =>
      simp only at haccepted
      split at haccepted
      · cases haccepted
      next hchains =>
        split at haccepted
        next hverified =>
          cases haccepted
          cases hholder : s.crlHolder with
          | none => rfl
          | some crl =>
            rw [hholder] at hverified
            obtain ⟨hcurrent, hall⟩ := verifyClientCertNotRevoked_ok.mp hverified
            have hne : cas.verify cert now ≠ [] := by simpa using hchains
            obtain ⟨chain, hchain⟩ := List.exists_mem_of_ne_nil _ hne
            have hleaf := hall chain hchain cert (cas.leaf cert now chain hchain)
            refine verifyClientCertNotRevoked_ok.mpr ⟨hcurrent, ?_⟩
            simpa using hleaf
        · cases haccepted

/-! ## Whole runs -/

theorem TLSServer.Step.crlHolder {event : TLSEvent}
    (h : Step lib cas crlConfigMapName mtlsCAFile s event s') :
    s'.crlHolder = s.crlHolder ∨ ∃ cm crl, event = .configMap cm ∧
      loadedCRL lib crlConfigMapName cm = some crl ∧ s'.crlHolder = some crl := by
  cases h with
  | connection => exact .inl rfl
  | configMap cm =>
    simp only [handleCRLConfigMap_eq]
    cases hloaded : loadedCRL lib crlConfigMapName cm with
    | none => exact .inl rfl
    | some crl => exact .inr ⟨cm, crl, rfl, hloaded, rfl⟩

theorem TLSServer.Step.outcome {attempt : TLSAttempt} {now : Time}
    {outcome : Option (Option ClientCertificate)}
    (h : Step lib cas crlConfigMapName mtlsCAFile s (.connection attempt now outcome) s') :
    outcome = s.connect (gatewayTLSConfig lib mtlsCAFile) cas now attempt := by
  cases h
  rfl

theorem TLSServer.step_configMap_none {cm : CrlConfigMap}
    (hnone : loadedCRL lib crlConfigMapName cm = none) :
    Step lib cas crlConfigMapName mtlsCAFile s (.configMap cm) s' ↔ s' = s := by
  have hsame : handleCRLConfigMap lib crlConfigMapName cm s.crlHolder = s.crlHolder := by
    rw [handleCRLConfigMap_eq, hnone, Option.none_or]
  constructor
  · intro hstep
    cases hstep
    rw [hsame]
  · rintro rfl
    have hstep : Step lib cas crlConfigMapName mtlsCAFile s' (.configMap cm) _ := .configMap cm
    rwa [hsame] at hstep

theorem crlHolder_since {keep : RevocationList → Prop}
    (hrun : Run (TLSServer.Step lib cas crlConfigMapName mtlsCAFile) s events s')
    (hloads : ∀ cm crl, .configMap cm ∈ events → loadedCRL lib crlConfigMapName cm = some crl →
      keep crl)
    (h : ∃ crl, s.crlHolder = some crl ∧ keep crl) : ∃ crl, s'.crlHolder = some crl ∧ keep crl := by
  apply hrun.always_mem fun s => ∃ crl, s.crlHolder = some crl ∧ keep crl
  · exact h
  · intro s event s' hmem hbefore hstep
    rcases hstep.crlHolder with hsame | ⟨cm, crl, rfl, hloaded, hholder⟩
    · rwa [hsame]
    · exact ⟨crl, hholder, hloads cm crl hmem hloaded⟩

theorem crlHolder_of_loaded {keep : RevocationList → Prop} {cm : CrlConfigMap}
    {crl : RevocationList} {earlier later : List TLSEvent}
    (hrun : Run (TLSServer.Step lib cas crlConfigMapName mtlsCAFile) .start
      (earlier ++ .configMap cm :: later) s)
    (hloaded : loadedCRL lib crlConfigMapName cm = some crl) (hkeep : keep crl)
    (hloads : ∀ cm' crl', .configMap cm' ∈ later → loadedCRL lib crlConfigMapName cm' = some crl' →
      keep crl') :
    ∃ crl, s.crlHolder = some crl ∧ keep crl := by
  obtain ⟨before, after, -, hstep, hlater⟩ := Run.split_iff.mp hrun
  refine crlHolder_since hlater hloads ⟨crl, ?_, hkeep⟩
  cases hstep
  simp only [handleCRLConfigMap_eq, hloaded, Option.some_or]

theorem admitted_not_revoked {now : Time} {cert : ClientCertificate}
    (hrun : Run (TLSServer.Step lib cas crlConfigMapName mtlsCAFile) .start events s)
    (hadmitted : verifyClientCertNotRevoked lib s.crlHolder now [[cert]] = .ok ()) :
    (∀ serial, cert.serialNumber = some serial →
      ¬ RevokedIn lib crlConfigMapName serial events) ∧
    ¬ StaleIn lib crlConfigMapName now events := by
  constructor
  · rintro serial hserial ⟨earlier, cm, later, crl, rfl, hloaded, hlisted, hlater⟩
    obtain ⟨held, hheld, hlisted⟩ := crlHolder_of_loaded hrun hloaded hlisted hlater
    rw [hheld] at hadmitted
    have hleaf := (verifyClientCertNotRevoked_ok.mp hadmitted).2 [cert] (by simp) cert rfl
    have hentry := List.findSome?_eq_none_iff.mp hleaf _ hlisted
    simp [hserial] at hentry
  · rintro ⟨earlier, cm, later, crl, rfl, hloaded, hpassed, hlater⟩
    have hnone : ∀ cm' crl', .configMap cm' ∈ later →
        loadedCRL lib crlConfigMapName cm' = some crl' → crl'.nextUpdate < now := by
      intro cm' crl' hmem hloaded'
      rw [hlater cm' hmem] at hloaded'
      cases hloaded'
    obtain ⟨held, hheld, hpassed⟩ :=
      @crlHolder_of_loaded _ _ _ _ _ (fun crl => crl.nextUpdate < now) _ _ _ _ hrun hloaded hpassed
        hnone
    rw [hheld] at hadmitted
    exact (verifyClientCertNotRevoked_ok.mp hadmitted).1 hpassed

end Proofs

/-- Where sessions are resumed only while the callback would admit their certificate: no
connection is accepted for a serial number from the load of a list that has it to the load of
one that has not, none while the last list is overdue; and a ConfigMap that brings no list makes
no difference to any run. -/
theorem revocation_enforced {lib : CrlLib} {cas : ClientCAs} {crlConfigMapName mtlsCAFile : String}
    (hmtls : mtlsCAFile ≠ "") {events : List TLSEvent} {s : TLSServer}
    (hrun : Run (fun s event s' => s.ResumesAdmitted lib event ∧
      TLSServer.Step lib cas crlConfigMapName mtlsCAFile s event s') .start events s) :
    (∀ before attempt now cert after,
      events = before ++ .connection attempt now (some (some cert)) :: after →
        (∀ serial, cert.serialNumber = some serial →
          ¬ RevokedIn lib crlConfigMapName serial before) ∧
        ¬ StaleIn lib crlConfigMapName now before) ∧
    (∀ cm, loadedCRL lib crlConfigMapName cm = none → ∀ before after s',
      Run (TLSServer.Step lib cas crlConfigMapName mtlsCAFile) .start
          (before ++ .configMap cm :: after) s' ↔
        Run (TLSServer.Step lib cas crlConfigMapName mtlsCAFile) .start (before ++ after) s') := by
  constructor
  · rintro before attempt now cert after rfl
    obtain ⟨mid, mid', hbefore, ⟨hresumes, hstep⟩, -⟩ := Run.split_iff.mp hrun
    exact admitted_not_revoked (hbefore.imp fun _ _ _ h => h.2)
      (mid.connect_admitted hmtls hresumes hstep.outcome.symm)
  · intro cm hnone before after s'
    exact Run.skip_iff fun _ _ => TLSServer.step_configMap_none hnone

/-! ## A day with tickets -/

def plainCrl : CrlLib where
  parseRevocationList
    | 0x30 :: serials => some ⟨serials.map fun serial => some serial.toNat, 100⟩
    | _ => none
  rfc3339 := toString

def plainCAs : ClientCAs where
  verify cert _ := [[cert]]
  leaf := by simp

def alice : ClientCertificate := ⟨some 7, "CN=alice"⟩

def crlUpdate (der : Bytes) : TLSEvent := .configMap ⟨"webhook-crl", [(crlConfigMapKey, der)], []⟩

def plainStep (s : TLSServer) : TLSEvent → Option TLSServer
  | .configMap cm =>
    some { s with crlHolder := handleCRLConfigMap plainCrl "webhook-crl" cm s.crlHolder }
  | .connection attempt now outcome =>
    if s.connect (gatewayTLSConfig plainCrl "ca.crt") plainCAs now attempt = outcome then
      some { s with sessions := s.sessions ++ outcome.toList }
    else none

theorem plainStep_step {s s' : TLSServer} {event : TLSEvent} (h : plainStep s event = some s') :
    TLSServer.Step plainCrl plainCAs "webhook-crl" "ca.crt" s event s' := by
  cases event with
  | configMap cm =>
    cases h
    exact .configMap cm
  | connection attempt now outcome =>
    simp only [plainStep] at h
    split at h
    next houtcome =>
      cases h
      cases houtcome
      exact .connection attempt now
    · cases h

/-- A session is resumed after an update that does not concern it and one that is malformed. -/
theorem revocation_enforced_resumed :
    (∀ serial, alice.serialNumber = some serial →
      ¬ RevokedIn plainCrl "webhook-crl" serial
        [crlUpdate [0x30], .connection (.handshake (some alice)) 10 (some (some alice)),
          crlUpdate [0x30, 5], crlUpdate [0xff]]) ∧
    ¬ StaleIn plainCrl "webhook-crl" 20
      [crlUpdate [0x30], .connection (.handshake (some alice)) 10 (some (some alice)),
        crlUpdate [0x30, 5], crlUpdate [0xff]] := by
  have hrun : Run (fun s event s' => s.ResumesAdmitted plainCrl event ∧
      TLSServer.Step plainCrl plainCAs "webhook-crl" "ca.crt" s event s') .start
      [crlUpdate [0x30], .connection (.handshake (some alice)) 10 (some (some alice)),
        crlUpdate [0x30, 5], crlUpdate [0xff],
        .connection (.resumption 0) 20 (some (some alice))]
      ⟨some ⟨[some 5], 100⟩, [some alice, some alice]⟩ := by
    refine .snoc (.snoc (.snoc (.snoc (.snoc .nil ⟨trivial, plainStep_step rfl⟩)
      ⟨trivial, plainStep_step rfl⟩) ⟨trivial, plainStep_step rfl⟩)
      ⟨trivial, plainStep_step rfl⟩) ⟨?_, plainStep_step rfl⟩
    intro cert hcert
    cases hcert
    rfl
  exact (revocation_enforced (by decide) hrun).1 _ _ _ _ [] rfl

/-- A list that has the certificate is loaded while its session is open: the session is resumed. -/
theorem revoked_session_resumed :
    ∃ s, Run (TLSServer.Step plainCrl plainCAs "webhook-crl" "ca.crt") .start
        ([crlUpdate [0x30], .connection (.handshake (some alice)) 10 (some (some alice)),
            crlUpdate [0x30, 7]] ++
          [.connection (.resumption 0) 20 (some (some alice))]) s ∧
      RevokedIn plainCrl "webhook-crl" 7
        [crlUpdate [0x30], .connection (.handshake (some alice)) 10 (some (some alice)),
          crlUpdate [0x30, 7]] ∧
      alice.serialNumber = some 7 := by
  refine ⟨⟨some ⟨[some 7], 100⟩, [some alice, some alice]⟩, ?_, ?_, rfl⟩
  · exact .snoc (.snoc (.snoc (.snoc .nil (plainStep_step rfl)) (plainStep_step rfl))
      (plainStep_step rfl)) (plainStep_step rfl)
  · exact ⟨[crlUpdate [0x30], .connection (.handshake (some alice)) 10 (some (some alice))], _, [],
      ⟨[some 7], 100⟩, rfl, rfl, by simp, by simp⟩

end KubeZap
