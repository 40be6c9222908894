import KubeZap.Certs.WebhookCerts
import KubeZap.Foundation.Replicas

/-! # Serving certificates across replicas

Every replica runs `Ensure`, at its start and then once an hour, on its own disk and on one
Secret and one webhook configuration that all of them share. All they ever store is a
leaf under the CA that the first of them made: a Secret is renewed only from one that was
read, and reading it gives back the CA that it was stored with.
-/

namespace KubeZap.WebhookCerts

open Foundation Function

variable {I B : Type}

/-! ## The cluster -/

structure CertWorld (I B : Type) where
  secret : Option (CertSecret B)
  secrets : List (CertSecret B)
  configuration : Option (WebhookConfiguration B)
  configurations : List (WebhookConfiguration B)
  nextVersion : Nat
  /-- The files of each replica. -/
  disk : I → String → Option B

namespace CertWorld

def storeSecret (w : CertWorld I B) (data : CertData B) : CertWorld I B :=
  { w with
    secret := some ⟨data, w.nextVersion⟩
    secrets := ⟨data, w.nextVersion⟩ :: w.secrets
    nextVersion := w.nextVersion + 1 }

def storeConfiguration (w : CertWorld I B) (caBundles : List B) : CertWorld I B :=
  { w with
    configuration := some ⟨caBundles, w.nextVersion⟩
    configurations := ⟨caBundles, w.nextVersion⟩ :: w.configurations
    nextVersion := w.nextVersion + 1 }

def writeDisk [DecidableEq I] (w : CertWorld I B) (i : I) (path : String) (content : Option B) :
    CertWorld I B :=
  { w with disk := update w.disk i (update (w.disk i) path content) }

end CertWorld

/-- The answers to a replica. A read may be as old as it likes; a write counts only for the
version that is stored, and may be done although it is answered with an error. -/
inductive Served [DecidableEq I] (i : I) (w : CertWorld I B) :
    (q : CertReq B) → CertReply q → CertWorld I B → Prop
  | now (t : Time) : Served i w .now t w
  | generateKey (x : Except String KeyId) : Served i w .generateKey x w
  | getSecret {s : CertSecret B} : s ∈ w.secrets → Served i w .getSecret (.ok s) w
  | noSecret : Served i w .getSecret (.error .notFound) w
  | getSecretFailed (err : String) : Served i w .getSecret (.error (.other err)) w
  | createSecret {data : CertData B} : w.secret = none →
      Served i w (.createSecret data) (.ok ⟨data, w.nextVersion⟩) (w.storeSecret data)
  | secretExists {data : CertData B} : w.secret.isSome →
      Served i w (.createSecret data) (.error .alreadyExists) w
  | createSecretFailed {data : CertData B} (err : String) :
      Served i w (.createSecret data) (.error (.other err)) w
  | createSecretUnanswered {data : CertData B} (err : String) : w.secret = none →
      Served i w (.createSecret data) (.error (.other err)) (w.storeSecret data)
  | updateSecret {s stored : CertSecret B} : w.secret = some stored →
      s.resourceVersion = stored.resourceVersion →
      Served i w (.updateSecret s) (.ok ⟨s.data, w.nextVersion⟩) (w.storeSecret s.data)
  | updateSecretUnchanged {s stored : CertSecret B} : w.secret = some stored → s = stored →
      Served i w (.updateSecret s) (.ok stored) w
  | secretConflict {s : CertSecret B} : Served i w (.updateSecret s) (.error .conflict) w
  | secretGone {s : CertSecret B} : w.secret = none →
      Served i w (.updateSecret s) (.error .notFound) w
  | updateSecretFailed {s : CertSecret B} (err : String) :
      Served i w (.updateSecret s) (.error (.other err)) w
  | updateSecretUnanswered {s stored : CertSecret B} (err : String) : w.secret = some stored →
      s.resourceVersion = stored.resourceVersion →
      Served i w (.updateSecret s) (.error (.other err)) (w.storeSecret s.data)
  | getConfiguration {cfg : WebhookConfiguration B} : cfg ∈ w.configurations →
      Served i w .getConfiguration (.ok cfg) w
  | noConfiguration : w.configuration = none →
      Served i w .getConfiguration (.error .notFound) w
  | getConfigurationFailed (err : String) :
      Served i w .getConfiguration (.error (.other err)) w
  | updateConfiguration {cfg stored : WebhookConfiguration B} : w.configuration = some stored →
      cfg.resourceVersion = stored.resourceVersion →
      Served i w (.updateConfiguration cfg) (.ok ()) (w.storeConfiguration cfg.caBundles)
  | configurationConflict {cfg : WebhookConfiguration B} :
      Served i w (.updateConfiguration cfg) (.error .conflict) w
  | configurationGone {cfg : WebhookConfiguration B} : w.configuration = none →
      Served i w (.updateConfiguration cfg) (.error .notFound) w
  | updateConfigurationFailed {cfg : WebhookConfiguration B} (err : String) :
      Served i w (.updateConfiguration cfg) (.error (.other err)) w
  | updateConfigurationUnanswered {cfg stored : WebhookConfiguration B} (err : String) :
      w.configuration = some stored → cfg.resourceVersion = stored.resourceVersion →
      Served i w (.updateConfiguration cfg) (.error (.other err))
        (w.storeConfiguration cfg.caBundles)
  | mkdirAll {path : String} (x : Except String Unit) : Served i w (.mkdirAll path) x w
  | readFile {path : String} {content : B} : w.disk i path = some content →
      Served i w (.readFile path) (.ok content) w
  | readFileFailed {path : String} (err : String) : Served i w (.readFile path) (.error err) w
  | writeFile {path : String} {data : B} :
      Served i w (.writeFile path data) (.ok ()) (w.writeDisk i path (some data))
  | writeFileFailed {path : String} {data : B} (err : String) (left : Option B) :
      Served i w (.writeFile path data) (.error err) (w.writeDisk i path left)

/-! ## What a replica does -/

/-- The data has the CA, and a pair that the CA issued for the names. -/
structure Issued (lib : CertLib B) (opts : Options) (ca : Cert) (caKey : KeyId)
    (data : CertData B) : Prop where
  caCrt : data.caCrt = lib.encodeCertPEM ca
  caKey : data.caKey = lib.encodeECPrivateKeyPEM caKey
  leaf : ∃ leaf : TLSCertificate, data.tlsCrt = lib.encodeCertPEM leaf.leaf ∧
    data.tlsKey = lib.encodeECPrivateKeyPEM leaf.privateKey ∧
    leaf.leaf.publicKey = leaf.privateKey ∧ leaf.leaf.issuer = ca.subject ∧
    leaf.leaf.signer = ca.publicKey ∧ leaf.leaf.dnsNames = opts.dnsNames

/-- What a replica knows: the data of Secrets that were stored, the files on its disk, and the
bundle that the configuration has throughout. -/
structure CertStage (B : Type) where
  seen : List (CertData B)
  files : String → Option B
  patched : Option B

namespace CertStage

def first : CertStage B := ⟨[], fun _ => none, none⟩

def see (σ : CertStage B) (data : CertData B) : CertStage B := { σ with seen := data :: σ.seen }

def know (σ : CertStage B) (path : String) (content : Option B) : CertStage B :=
  { σ with files := update σ.files path content }

def patch (σ : CertStage B) (caBundle : B) : CertStage B := { σ with patched := some caBundle }

def CAOf (σ : CertStage B) (caBundles : List B) (ca : B) : Prop :=
  (∃ data ∈ σ.seen, data.caCrt = ca) ∧ ∀ caBundle ∈ caBundles, caBundle = ca

variable (lib : CertLib B) (opts : Options)

def Renews (σ : CertStage B) (data : CertData B) : Prop :=
  ∃ old ∈ σ.seen, ∃ ca caKey, lib.parseCertPEM old.caCrt = .ok ca ∧
    lib.parseECPrivateKeyPEM old.caKey = .ok caKey ∧ Issued lib opts ca caKey data

inductive Move (σ : CertStage B) : (q : CertReq B) → CertReply q → CertStage B → Prop
  | now (t : Time) : Move σ .now t σ
  | generateKey (x : Except String KeyId) : Move σ .generateKey x σ
  | getSecret (s : CertSecret B) : Move σ .getSecret (.ok s) (σ.see s.data)
  | getSecretError (err : ObjectError) : Move σ .getSecret (.error err) σ
  | createSecret {data : CertData B} {ca : Cert} {caKey : KeyId} (s : CertSecret B) :
      ca.Signs → Issued lib opts ca caKey data →
      Move σ (.createSecret data) (.ok s) (σ.see s.data)
  | createSecretError {data : CertData B} {ca : Cert} {caKey : KeyId} (err : ObjectError) :
      ca.Signs → Issued lib opts ca caKey data → Move σ (.createSecret data) (.error err) σ
  | updateSecret {s : CertSecret B} (s' : CertSecret B) :
      σ.Renews lib opts s.data → Move σ (.updateSecret s) (.ok s') (σ.see s'.data)
  | updateSecretError {s : CertSecret B} (err : ObjectError) :
      σ.Renews lib opts s.data → Move σ (.updateSecret s) (.error err) σ
  | getConfiguration (x : Except ObjectError (WebhookConfiguration B)) :
      Move σ .getConfiguration x σ
  | upToDate {cfg : WebhookConfiguration B} {ca : B} : σ.CAOf cfg.caBundles ca →
      Move σ .getConfiguration (.ok cfg) (σ.patch ca)
  | noConfiguration {ca : B} : σ.CAOf [] ca →
      Move σ .getConfiguration (.error .notFound) (σ.patch ca)
  | updateConfiguration {cfg : WebhookConfiguration B} {ca : B} : σ.CAOf cfg.caBundles ca →
      Move σ (.updateConfiguration cfg) (.ok ()) (σ.patch ca)
  | updateConfigurationError {cfg : WebhookConfiguration B} {ca : B} (err : ObjectError) :
      σ.CAOf cfg.caBundles ca → Move σ (.updateConfiguration cfg) (.error err) σ
  | configurationGone {cfg : WebhookConfiguration B} {ca : B} : σ.CAOf cfg.caBundles ca →
      Move σ (.updateConfiguration cfg) (.error .notFound) (σ.patch ca)
  | mkdirAll {path : String} (x : Except String Unit) : Move σ (.mkdirAll path) x σ
  | readFile {path : String} (content : B) :
      Move σ (.readFile path) (.ok content) (σ.know path (some content))
  | readFileError {path : String} (err : String) : Move σ (.readFile path) (.error err) σ
  | writeFile {path : String} {data : B} :
      Move σ (.writeFile path data) (.ok ()) (σ.know path (some data))
  | writeFileError {path : String} {data : B} (err : String) :
      Move σ (.writeFile path data) (.error err) (σ.know path none)

end CertStage

/-! ## What holds between the steps -/

section Invariants

variable {lib : CertLib B} {opts : Options}

/-- All Secrets that were stored are of one CA, and there is one from the first on; the
configuration is the one there was, or has that CA. -/
structure Shared (lib : CertLib B) (opts : Options) (w : CertWorld I B) : Prop where
  stored : ∀ s, w.secret = some s → s ∈ w.secrets
  kept : w.secret = none → w.secrets = []
  issued : ∃ ca caKey, ca.Signs ∧ ∀ s ∈ w.secrets, Issued lib opts ca caKey s.data
  patched : ∀ cfg, w.configuration = some cfg →
    w.configurations = [cfg] ∨ ∃ s ∈ w.secrets, ∀ caBundle ∈ cfg.caBundles, caBundle = s.data.caCrt

structure Held (i : I) (w : CertWorld I B) (σ : CertStage B) : Prop where
  seen : ∀ data ∈ σ.seen, ∃ s ∈ w.secrets, s.data = data
  files : ∀ path content, σ.files path = some content → w.disk i path = some content
  patched : ∀ ca, σ.patched = some ca → (∃ data ∈ σ.seen, data.caCrt = ca) ∧
    ∀ cfg, w.configuration = some cfg → ∀ caBundle ∈ cfg.caBundles, caBundle = ca

variable {i j : I} {w w' : CertWorld I B} {σ σ' : CertStage B}

theorem Held.first : Held i w CertStage.first := ⟨nofun, nofun, nofun⟩

theorem Shared.same_ca (h : Shared lib opts w) {s s' : CertSecret B} (hs : s ∈ w.secrets)
    (hs' : s' ∈ w.secrets) : s.data.caCrt = s'.data.caCrt := by
  obtain ⟨ca, caKey, -, hissued⟩ := h.issued
  rw [(hissued s hs).caCrt, (hissued s' hs').caCrt]

theorem Held.see (h : Held i w σ) {s : CertSecret B} (hs : s ∈ w.secrets) :
    Held i w (σ.see s.data) := by
  refine ⟨List.forall_mem_cons.mpr ⟨⟨s, hs, rfl⟩, h.seen⟩, h.files, ?_⟩
  intro ca hpatched
  obtain ⟨⟨data, hmem, hca⟩, hcfg⟩ := h.patched ca hpatched
  exact ⟨⟨data, List.mem_cons_of_mem _ hmem, hca⟩, hcfg⟩

theorem Held.patch (h : Held i w σ) {ca : B} (hca : ∃ data ∈ σ.seen, data.caCrt = ca)
    (hcfg : ∀ cfg, w.configuration = some cfg → ∀ caBundle ∈ cfg.caBundles, caBundle = ca) :
    Held i w (σ.patch ca) := by
  refine ⟨h.seen, h.files, ?_⟩
  rintro _ ⟨⟩
  exact ⟨hca, hcfg⟩

theorem Held.storeSecret (h : Held i w σ) (data : CertData B) : Held i (w.storeSecret data) σ := by
  refine ⟨?_, h.files, h.patched⟩
  intro data' hmem
  obtain ⟨s, hs, hdata⟩ := h.seen data' hmem
  exact ⟨s, List.mem_cons_of_mem _ hs, hdata⟩

theorem Held.storeConfiguration (h : Held i w σ) (hshared : Shared lib opts w)
    {caBundles : List B} {s : CertSecret B} (hs : s ∈ w.secrets)
    (hall : ∀ caBundle ∈ caBundles, caBundle = s.data.caCrt) :
    Held i (w.storeConfiguration caBundles) σ := by
  refine ⟨h.seen, h.files, ?_⟩
  intro ca hpatched
  obtain ⟨⟨data, hmem, hca⟩, -⟩ := h.patched ca hpatched
  refine ⟨⟨data, hmem, hca⟩, ?_⟩
  rintro cfg ⟨⟩ caBundle hbundle
  obtain ⟨s', hs', rfl⟩ := h.seen data hmem
  rw [hall caBundle hbundle, ← hca]
  exact hshared.same_ca hs hs'

theorem Held.renews (h : Held i w σ) (hshared : Shared lib opts w) {data : CertData B}
    (hrenews : σ.Renews lib opts data) :
    ∃ ca caKey, ca.Signs ∧ (∀ s ∈ w.secrets, Issued lib opts ca caKey s.data) ∧
      Issued lib opts ca caKey data := by
  obtain ⟨old, hold, ca, caKey, hca, hkey, hissued⟩ := hrenews
  obtain ⟨s, hs, rfl⟩ := h.seen old hold
  obtain ⟨ca', caKey', hsigns, hall⟩ := hshared.issued
  rw [(hall s hs).caCrt, lib.parse_encodeCert] at hca
  rw [(hall s hs).caKey, lib.parse_encodeKey] at hkey
  cases hca
  cases hkey
  exact ⟨_, _, hsigns, hall, hissued⟩

theorem Held.caOf (h : Held i w σ) {caBundles : List B} {ca : B} (hca : σ.CAOf caBundles ca) :
    ∃ s ∈ w.secrets, s.data.caCrt = ca ∧ ∀ caBundle ∈ caBundles, caBundle = s.data.caCrt := by
  obtain ⟨⟨data, hmem, rfl⟩, hall⟩ := hca
  obtain ⟨s, hs, rfl⟩ := h.seen data hmem
  exact ⟨s, hs, rfl, hall⟩

theorem Shared.upToDate (hshared : Shared lib opts w) {cfg : WebhookConfiguration B}
    (hcfg : cfg ∈ w.configurations) {s : CertSecret B} (hs : s ∈ w.secrets)
    (hall : ∀ caBundle ∈ cfg.caBundles, caBundle = s.data.caCrt) :
    ∀ cfg', w.configuration = some cfg' → ∀ caBundle ∈ cfg'.caBundles, caBundle = s.data.caCrt := by
  intro cfg' hcfg' caBundle hmem
  rcases hshared.patched cfg' hcfg' with honly | ⟨s', hs', hall'⟩
  · rw [honly] at hcfg
    cases List.mem_singleton.mp hcfg
    exact hall caBundle hmem
  · rw [hall' caBundle hmem]
    exact hshared.same_ca hs' hs

variable [DecidableEq I]

theorem Held.writeDisk (h : Held i w σ) (path : String) {known content : Option B}
    (hknown : ∀ data, known = some data → content = some data) :
    Held i (w.writeDisk i path content) (σ.know path known) := by
  refine ⟨h.seen, ?_, h.patched⟩
  intro path' content' hfile
  simp only [CertStage.know, update_apply] at hfile
  simp only [CertWorld.writeDisk, update_self, update_apply]
  split at hfile
  next hpath =>
    rw [if_pos hpath]
    exact hknown content' hfile
  next hpath =>
    rw [if_neg hpath]
    exact h.files path' content' hfile

theorem Held.know (h : Held i w σ) {path : String} {content : B}
    (hcontent : w.disk i path = some content) : Held i w (σ.know path (some content)) := by
  have hsame : w.writeDisk i path (some content) = w := by
    simp [CertWorld.writeDisk, ← hcontent]
  rw [← hsame]
  exact h.writeDisk path fun _ hdata => hdata

theorem Held.writeDisk_other (h : Held j w σ) (hne : j ≠ i) (path : String) (content : Option B) :
    Held j (w.writeDisk i path content) σ := by
  refine ⟨h.seen, ?_, h.patched⟩
  intro path' content' hfile
  simp only [CertWorld.writeDisk, update_of_ne hne]
  exact h.files path' content' hfile

/-- What a step of a replica may do to the world. -/
inductive Change (lib : CertLib B) (opts : Options) (i : I) (w : CertWorld I B) :
    CertWorld I B → Prop
  | unchanged : Change lib opts i w w
  | secret {data : CertData B} {ca : Cert} {caKey : KeyId} : ca.Signs →
      (∀ s ∈ w.secrets, Issued lib opts ca caKey s.data) → Issued lib opts ca caKey data →
      Change lib opts i w (w.storeSecret data)
  | configuration {caBundles : List B} {s : CertSecret B} : s ∈ w.secrets →
      (∀ caBundle ∈ caBundles, caBundle = s.data.caCrt) →
      Change lib opts i w (w.storeConfiguration caBundles)
  | disk (path : String) (content : Option B) : Change lib opts i w (w.writeDisk i path content)

theorem effect_of_served {q : CertReq B} {x : CertReply q} (hshared : Shared lib opts w)
    (hheld : Held i w σ) (hserved : Served i w q x w') (hmove : σ.Move lib opts q x σ') :
    Change lib opts i w w' ∧ Held i w' σ' := by
  have hcreate {data : CertData B} {ca : Cert} {caKey : KeyId} (hnone : w.secret = none)
      (hsigns : ca.Signs) (hissued : Issued lib opts ca caKey data) :
      Change lib opts i w (w.storeSecret data) := by
    refine .secret hsigns ?_ hissued
    rw [hshared.kept hnone]
    exact nofun
  have hupdate {data : CertData B} (hrenews : σ.Renews lib opts data) :
      Change lib opts i w (w.storeSecret data) := by
    obtain ⟨ca, caKey, hsigns, hall, hissued⟩ := hheld.renews hshared hrenews
    exact .secret hsigns hall hissued
  cases hmove with
  | now | generateKey | getSecretError | mkdirAll | readFileError | getConfiguration =>
    cases hserved <;> exact ⟨.unchanged, hheld⟩
  | getSecret s =>
    cases hserved with
    | getSecret hs => exact ⟨.unchanged, hheld.see hs⟩
  | createSecret s hsigns hissued =>
    cases hserved with
    | createSecret hnone =>
      exact ⟨hcreate hnone hsigns hissued, (hheld.storeSecret _).see List.mem_cons_self⟩
  | createSecretError err hsigns hissued =>
    cases hserved with
    | secretExists | createSecretFailed => exact ⟨.unchanged, hheld⟩
    | createSecretUnanswered _ hnone =>
      exact ⟨hcreate hnone hsigns hissued, hheld.storeSecret _⟩
  | updateSecret s' hrenews =>
    cases hserved with
    | updateSecret => exact ⟨hupdate hrenews, (hheld.storeSecret _).see List.mem_cons_self⟩
    | updateSecretUnchanged hstored => exact ⟨.unchanged, hheld.see (hshared.stored _ hstored)⟩
  | updateSecretError err hrenews =>
    cases hserved with
    | secretConflict | secretGone | updateSecretFailed => exact ⟨.unchanged, hheld⟩
    | updateSecretUnanswered => exact ⟨hupdate hrenews, hheld.storeSecret _⟩
  | upToDate hca =>
    cases hserved with
    | getConfiguration hcfg =>
      obtain ⟨s, hs, rfl, hall⟩ := hheld.caOf hca
      exact ⟨.unchanged, hheld.patch hca.1 (hshared.upToDate hcfg hs hall)⟩
  | noConfiguration hca =>
    cases hserved with
    | noConfiguration hnone => exact ⟨.unchanged, hheld.patch hca.1 (by simp [hnone])⟩
  | updateConfiguration hca =>
    cases hserved with
    | updateConfiguration =>
      obtain ⟨s, hs, rfl, hall⟩ := hheld.caOf hca
      refine ⟨.configuration hs hall, (hheld.storeConfiguration hshared hs hall).patch hca.1 ?_⟩
      rintro cfg ⟨⟩
      exact hall
  | updateConfigurationError err hca =>
    cases hserved with
    | configurationConflict | configurationGone | updateConfigurationFailed =>
      exact ⟨.unchanged, hheld⟩
    | updateConfigurationUnanswered =>
      obtain ⟨s, hs, -, hall⟩ := hheld.caOf hca
      exact ⟨.configuration hs hall, hheld.storeConfiguration hshared hs hall⟩
  | configurationGone hca =>
    cases hserved with
    | configurationGone hnone => exact ⟨.unchanged, hheld.patch hca.1 (by simp [hnone])⟩
  | readFile content =>
    cases hserved with
    | readFile hcontent => exact ⟨.unchanged, hheld.know hcontent⟩
  | writeFile =>
    cases hserved with
    | writeFile => exact ⟨.disk _ _, hheld.writeDisk _ fun _ hdata => hdata⟩
  | writeFileError err =>
    cases hserved with
    | writeFileFailed => exact ⟨.disk _ _, hheld.writeDisk _ nofun⟩

theorem Change.shared (h : Change lib opts i w w') (hshared : Shared lib opts w) :
    Shared lib opts w' := by
  cases h with
  | unchanged => exact hshared
  | disk => exact ⟨hshared.stored, hshared.kept, hshared.issued, hshared.patched⟩
  | @secret data ca caKey hsigns hall hissued =>
    refine ⟨?_, nofun, ⟨ca, caKey, hsigns, List.forall_mem_cons.mpr ⟨hissued, hall⟩⟩, ?_⟩
    · rintro s ⟨⟩
      exact List.mem_cons_self
    · intro cfg hcfg
      refine (hshared.patched cfg hcfg).imp_right ?_
      rintro ⟨s, hs, hpatched⟩
      exact ⟨s, List.mem_cons_of_mem _ hs, hpatched⟩
  | @configuration caBundles s hs hall =>
    refine ⟨hshared.stored, hshared.kept, hshared.issued, ?_⟩
    rintro cfg ⟨⟩
    exact .inr ⟨s, hs, hall⟩

theorem Change.held (h : Change lib opts i w w') (hshared : Shared lib opts w) (hne : j ≠ i)
    (hheld : Held j w σ) : Held j w' σ := by
  cases h with
  | unchanged => exact hheld
  | disk path content => exact hheld.writeDisk_other hne path content
  | secret => exact hheld.storeSecret _
  | configuration hs hall => exact hheld.storeConfiguration hshared hs hall

theorem replicaRules : Replicas.Rules (fun i : I => Served (B := B) i) (CertStage.Move lib opts)
    (fun _ _ => True) (Shared lib opts) Held CertStage.first where
  honest := fun _ _ _ _ _ _ => trivial
  start := fun _ _ _ => .first
  own := fun _ _ _ _ _ _ _ hshared hheld hserved hmove =>
    (effect_of_served hshared hheld hserved hmove).imp_left (·.shared hshared)
  others := fun _ _ _ _ _ _ _ _ _ hne hshared hheld hheld' hserved hmove =>
    (effect_of_served hshared hheld' hserved hmove).1.held hshared hne hheld

end Invariants

/-! ## `Ensure` step by step -/

section Follows

variable (lib : CertLib B) (opts : Options)

/-- Whatever is answered, only what a replica may ask for is asked for. -/
abbrev Keeps {α : Type} (post : CertStage B → α → Prop) (σ : CertStage B) (p : CertProgram B α) :
    Prop :=
  Follows (CertStage.Move lib opts) (fun _ _ => True) post σ p

variable {lib opts} {σ : CertStage B}

theorem Keeps.ask {α : Type} {post : CertStage B → α → Prop} {q : CertReq B}
    {f : CertReply q → CertProgram B α}
    (h : ∀ x, ∃ σ', σ.Move lib opts q x σ' ∧ Keeps lib opts post σ' (f x)) :
    Keeps lib opts post σ (WebhookCerts.ask q >>= f) := fun x _ => h x

theorem retryOnConflict_keeps {α : Type} {inv : CertStage B → Prop}
    {post : CertStage B → Except CertError α → Prop} {fn : CertProgram B (Except CertError α)}
    (hfn : ∀ σ, inv σ → Keeps lib opts (fun σ' r => inv σ' ∧ post σ' r) σ fn) (hσ : inv σ) :
    Keeps lib opts (fun σ' r => inv σ' ∧ post σ' r) σ (lib.retryOnConflict fn) := by
  obtain ⟨retries, heq⟩ := lib.retries fn
  rw [heq]
  clear heq
  induction retries generalizing σ with
  | zero => exact hfn σ hσ
  | succ retries ih =>
    refine (hfn σ hσ).bind ?_
    rintro σ' r ⟨hinv, hpost⟩
    split
    · exact ih hinv
    · exact ⟨hinv, hpost⟩

def Seen (σ : CertStage B) (r : Except CertError (CertSecret B)) : Prop :=
  ∀ s, r = .ok s → s.data ∈ σ.seen

theorem seen_error {err : CertError} : Seen σ (.error err) := nofun

theorem seen_see (s : CertSecret B) : Seen (σ.see s.data) (.ok s) := by
  rintro _ ⟨⟩
  exact List.mem_cons_self

theorem issueServingCert_keeps (caCert : Cert) (caKey : KeyId) (now : Time) :
    Keeps lib opts (fun σ' r => σ' = σ ∧ ∀ leaf, r = .ok leaf →
      Issued lib opts caCert caKey (secretData lib caCert caKey leaf)) σ
      (issueServingCert opts caCert caKey now) := by
  refine Keeps.ask fun x => ⟨σ, .generateKey x, ?_⟩
  cases x with
  | error err => exact ⟨rfl, nofun⟩
  | ok leafKey =>
    refine ⟨rfl, ?_⟩
    intro leaf hleaf
    by_cases hkey : caKey = caCert.publicKey
    · simp only [issueLeafCert, hkey, ne_eq, not_true_eq_false, if_false, Except.mapError,
        Except.ok.injEq] at hleaf
      subst hleaf
      exact ⟨rfl, rfl, _, rfl, rfl, rfl, rfl, rfl, rfl⟩
    · simp [issueLeafCert, hkey, Except.mapError] at hleaf

theorem createSecret_keeps : Keeps lib opts Seen σ (createSecret lib opts) := by
  refine Keeps.ask fun now => ⟨σ, .now now, ?_⟩
  refine Keeps.ask fun x => ⟨σ, .generateKey x, ?_⟩
  cases x with
  | error err => exact seen_error
  | ok caKey =>
    refine (issueServingCert_keeps _ caKey now).tryThen (fun _ _ _ => seen_error) ?_
    rintro _ leaf ⟨rfl, hissued⟩
    refine Keeps.ask fun x => ?_
    cases x with
    | error err =>
      exact ⟨_, .createSecretError err (generateCA_signs ..) (hissued leaf rfl), seen_error⟩
    | ok s => exact ⟨_, .createSecret s (generateCA_signs ..) (hissued leaf rfl), seen_see s⟩

theorem rotateLeafOnce_keeps {old : CertData B} {caCert : Cert} {caKey : KeyId}
    (hca : lib.parseCertPEM old.caCrt = .ok caCert)
    (hkey : lib.parseECPrivateKeyPEM old.caKey = .ok caKey) (hold : old ∈ σ.seen) :
    Keeps lib opts (fun σ' r => old ∈ σ'.seen ∧ Seen σ' r) σ
      (rotateLeafOnce lib opts caCert caKey) := by
  refine Keeps.ask fun x => ?_
  cases x with
  | error err => exact ⟨_, .getSecretError err, hold, seen_error⟩
  | ok current =>
    refine ⟨_, .getSecret current, Keeps.ask fun now => ⟨_, .now now, ?_⟩⟩
    have hold' : old ∈ (σ.see current.data).seen := List.mem_cons_of_mem _ hold
    refine (issueServingCert_keeps caCert caKey now).tryThen ?_ ?_
    · rintro _ err ⟨rfl, -⟩
      exact ⟨hold', seen_error⟩
    · rintro _ leaf ⟨rfl, hissued⟩
      have hrenews : (σ.see current.data).Renews lib opts (secretData lib caCert caKey leaf) :=
        ⟨old, hold', caCert, caKey, hca, hkey, hissued leaf rfl⟩
      refine Keeps.ask fun x => ?_
      cases x with
      | error err => exact ⟨_, .updateSecretError err hrenews, hold', seen_error⟩
      | ok s =>
        exact ⟨_, .updateSecret s hrenews, List.mem_cons_of_mem _ hold', seen_see s⟩

theorem rotateLeaf_keeps {secret : CertSecret B} (hseen : secret.data ∈ σ.seen) :
    Keeps lib opts Seen σ (rotateLeaf lib opts secret) := by
  unfold rotateLeaf
  split
  next caCert caKey hca hkey =>
    have honce (σ : CertStage B) (hold : secret.data ∈ σ.seen) :
        Keeps lib opts (fun σ' r => secret.data ∈ σ'.seen ∧ Seen σ' r) σ
          (rotateLeafOnce lib opts caCert caKey) := rotateLeafOnce_keeps hca hkey hold
    exact (retryOnConflict_keeps honce hseen).weaken fun _ _ h => h.2
  next => exact createSecret_keeps

structure Wrote (σ : CertStage B) (path : String) (data : B) (σ' : CertStage B)
    (r : Except CertError Unit) : Prop where
  seen : σ'.seen = σ.seen
  others : ∀ p, p ≠ path → σ'.files p = σ.files p
  file : r = .ok () → σ'.files path = some data

theorem Wrote.know (path : String) (data : B) (known : Option B) {r : Except CertError Unit}
    (hknown : r = .ok () → known = some data) : Wrote σ path data (σ.know path known) r := by
  refine ⟨rfl, ?_, ?_⟩
  · intro p hp
    exact update_of_ne hp _ _
  · intro hr
    rw [← hknown hr]
    exact update_self _ _ _

theorem Wrote.of_know {σ' : CertStage B} {path : String} {data : B} {known : Option B}
    {r : Except CertError Unit} (h : Wrote (σ.know path known) path data σ' r) :
    Wrote σ path data σ' r := by
  refine ⟨h.seen, ?_, h.file⟩
  intro p hp
  rw [h.others p hp]
  exact update_of_ne hp _ _

variable [DecidableEq B]

theorem rotateIfNeeded_keeps {secret : CertSecret B} (hseen : secret.data ∈ σ.seen) :
    Keeps lib opts Seen σ (rotateIfNeeded lib opts secret) := by
  refine Keeps.ask fun now => ⟨σ, .now now, ?_⟩
  split
  · exact rotateLeaf_keeps hseen
  · rintro _ ⟨⟩
    exact hseen

theorem ensureSecret_keeps : Keeps lib opts Seen σ (ensureSecret lib opts) := by
  have hread {f : CertReply (B := B) .getSecret → CertProgram B (Except CertError (CertSecret B))}
      (hok : ∀ s, f (.ok s) = rotateIfNeeded lib opts s)
      (herr : ∀ σ err, Keeps lib opts Seen σ (f (.error err))) (σ : CertStage B) :
      Keeps lib opts Seen σ (WebhookCerts.ask .getSecret >>= f) := by
    refine Keeps.ask fun x => ?_
    cases x with
    | error err => exact ⟨σ, .getSecretError err, herr σ err⟩
    | ok s =>
      refine ⟨_, .getSecret s, ?_⟩
      rw [hok]
      exact rotateIfNeeded_keeps List.mem_cons_self
  refine hread (fun _ => rfl) ?_ σ
  intro σ err
  cases err with
  | notFound =>
    refine createSecret_keeps.bind fun σ' r hr => ?_
    split
    · exact hr
    · refine hread (fun _ => rfl) ?_ σ'
      intro σ err
      exact seen_error
    · exact seen_error
  | alreadyExists | conflict | other => exact seen_error

theorem writeIfChanged_keeps (path : String) (data : B) :
    Keeps lib opts (Wrote σ path data) σ (writeIfChanged path data) := by
  have hwrite (σ : CertStage B) : Keeps lib opts (Wrote σ path data) σ
      (do return (← WebhookCerts.ask (.writeFile path data)).mapError .text) := by
    refine Keeps.ask fun x => ?_
    cases x with
    | error err => exact ⟨_, .writeFileError err, .know path data none nofun⟩
    | ok _ => exact ⟨_, .writeFile, .know path data (some data) fun _ => rfl⟩
  refine Keeps.ask fun x => ?_
  cases x with
  | error err => exact ⟨σ, .readFileError err, hwrite σ⟩
  | ok existing =>
    refine ⟨_, .readFile existing, ?_⟩
    simp only
    split
    next heq => exact .know path data _ fun _ => by rw [heq]
    next hne =>
      refine (hwrite _).weaken ?_
      intro σ' r h
      exact h.of_know

theorem writeCertFiles_keeps (data : CertData B) :
    Keeps lib opts (fun σ' r => σ'.seen = σ.seen ∧ (r = .ok () → OnDisk opts σ'.files data)) σ
      (writeCertFiles opts data) := by
  refine Keeps.ask fun x => ⟨σ, .mkdirAll x, ?_⟩
  cases x with
  | error err => exact ⟨rfl, nofun⟩
  | ok _ =>
    refine (writeIfChanged_keeps opts.certPath data.tlsCrt).tryThen ?_ ?_
    · intro σ' err h
      exact ⟨h.seen, nofun⟩
    · intro σ₁ _ hcert
      refine (writeIfChanged_keeps opts.keyPath data.tlsKey).weaken ?_
      intro σ₂ r hkey
      refine ⟨hkey.seen.trans hcert.seen, ?_⟩
      intro hr
      refine ⟨hkey.file hr, ?_⟩
      intro hfiles
      rw [hkey.others _ hfiles]
      exact hcert.file rfl

structure Patched (seen : List (CertData B)) (files : String → Option B) (σ : CertStage B) :
    Prop where
  seen : σ.seen = seen
  files : σ.files = files

theorem patchCABundleOnce_keeps {ca : B} {seen : List (CertData B)} {files : String → Option B}
    (hca : ∃ data ∈ seen, data.caCrt = ca) (hσ : Patched seen files σ) :
    Keeps lib opts (fun σ' r => Patched seen files σ' ∧
      (r = .ok () ∨ r = .error (.api .notFound) → σ'.patched = some ca)) σ
      (patchCABundleOnce ca) := by
  have hseen : ∃ data ∈ σ.seen, data.caCrt = ca := by rwa [hσ.seen]
  have hpatch : Patched seen files (σ.patch ca) := ⟨hσ.seen, hσ.files⟩
  refine Keeps.ask fun x => ?_
  cases x with
  | error err =>
    by_cases herr : err = .notFound
    · subst herr
      exact ⟨_, .noConfiguration ⟨hseen, nofun⟩, hpatch, fun _ => rfl⟩
    · exact ⟨σ, .getConfiguration _, hσ, by simp [herr]⟩
  | ok cfg =>
    simp only
    split
    next hall =>
      have hca : σ.CAOf cfg.caBundles ca := ⟨hseen, by simpa using hall⟩
      exact ⟨_, .upToDate hca, hpatch, fun _ => rfl⟩
    next =>
      refine ⟨σ, .getConfiguration _, Keeps.ask fun x => ?_⟩
      have hca : σ.CAOf
          (cfg.caBundles.map fun caBundle => if caBundle ≠ ca then ca else caBundle) ca := by
        refine ⟨hseen, ?_⟩
        simp only [List.mem_map]
        rintro _ ⟨caBundle, -, rfl⟩
        split
        · rfl
        · simp_all
      cases x with
      | ok _ => exact ⟨_, .updateConfiguration hca, hpatch, fun _ => rfl⟩
      | error err =>
        by_cases herr : err = .notFound
        · subst herr
          exact ⟨_, .configurationGone hca, hpatch, fun _ => rfl⟩
        · exact ⟨σ, .updateConfigurationError err hca, hσ, by simp [Except.mapError, herr]⟩

/-- What a replica holds when `Ensure` has returned without an error. -/
def Published (opts : Options) (σ : CertStage B) (r : Except CertError Unit) : Prop :=
  r = .ok () → ∃ data ∈ σ.seen, OnDisk opts σ.files data ∧ σ.patched = some data.caCrt

theorem publish_keeps {data : CertData B} (hdata : data ∈ σ.seen) :
    Keeps lib opts (Published opts) σ (publish lib opts data) := by
  refine (writeCertFiles_keeps data).bind ?_
  rintro σ₁ r ⟨hseen, hwritten⟩
  cases r with
  | error err => exact nofun
  | ok _ =>
    have hca : ∃ d ∈ σ₁.seen, d.caCrt = data.caCrt := ⟨data, hseen ▸ hdata, rfl⟩
    refine (retryOnConflict_keeps (fun σ hσ => patchCABundleOnce_keeps hca hσ)
      ⟨rfl, rfl⟩).bind ?_
    rintro σ₂ r ⟨hσ₂, hpatched⟩
    have hdone : r = .ok () ∨ r = .error (.api .notFound) → Published opts σ₂ (.ok ()) := by
      intro hr _
      refine ⟨data, ?_, ?_, hpatched hr⟩
      · rw [hσ₂.seen, hseen]
        exact hdata
      · rw [hσ₂.files]
        exact hwritten rfl
    split
    · exact hdone (.inr rfl)
    · exact nofun
    · exact hdone (.inl rfl)

theorem ensure_keeps (options : Options) :
    Keeps lib options.setDefaults (Published options.setDefaults) σ (ensure lib options) := by
  refine ensureSecret_keeps.bind ?_
  intro σ' r hseen
  cases r with
  | error err => exact nofun
  | ok secret => exact publish_keeps (hseen secret rfl)

end Follows

/-! ## All replicas -/

section AllReplicas

variable [DecidableEq I] [DecidableEq B]

abbrev CertReplicas (I B : Type) :=
  Replicas I (CertWorld I B) (@CertReply B) (Except CertError Unit)

abbrev CertReplicas.Step (lib : CertLib B) (options : Options) :
    CertReplicas I B → ReplicaAct I → CertReplicas I B → Prop :=
  Replicas.Step (fun i => Served i) (ensure lib options)

/-- No Secret yet, and a configuration of which there are no older versions. -/
structure CertWorld.Fresh (w : CertWorld I B) : Prop where
  secret : w.secret = none
  secrets : w.secrets = []
  configurations : w.configurations = w.configuration.toList

variable {lib : CertLib B} {options : Options} {w : CertWorld I B}
  {acts acts' : List (ReplicaAct I)} {s s' : CertReplicas I B}

omit [DecidableEq I] [DecidableEq B] in
theorem CertWorld.Fresh.shared (h : w.Fresh) : Shared lib options.setDefaults w := by
  refine ⟨?_, fun _ => h.secrets, ?_, ?_⟩
  · intro secret hsecret
    rw [h.secret] at hsecret
    cases hsecret
  · refine ⟨generateCA "" 0 0 0, 0, generateCA_signs .., ?_⟩
    rw [h.secrets]
    exact nofun
  · intro cfg hcfg
    left
    rw [h.configurations, hcfg]
    rfl

theorem covered (hw : w.Fresh)
    (hrun : Run (CertReplicas.Step lib options) ⟨w, fun _ => none⟩ acts s) :
    s.Covered (CertStage.Move lib options.setDefaults) (fun _ _ => True)
      (Shared lib options.setDefaults) Held (Published options.setDefaults) :=
  Replicas.covered_run replicaRules (ensure_keeps options) hw.shared hrun

omit [DecidableEq B] in
theorem Served.secrets_subset {i : I} {q : CertReq B} {x : CertReply q} {w' : CertWorld I B}
    (h : Served i w q x w') : w.secrets ⊆ w'.secrets := by
  cases h with
  | createSecret | createSecretUnanswered | updateSecret | updateSecretUnanswered =>
    exact List.subset_cons_self _ _
  | _ => exact List.Subset.refl _

theorem secrets_kept (hrun : Run (CertReplicas.Step lib options) s acts s') :
    s.world.secrets ⊆ s'.world.secrets := by
  apply hrun.always fun t => s.world.secrets ⊆ t.world.secrets
  · exact List.Subset.refl _
  · intro t act t' ht hstep
    cases hstep with
    | call _ hserved => exact List.Subset.trans ht hserved.secrets_subset
    | start | finish | crash => exact ht

/-- The replica serves a pair of the CA in the Secret, and the configuration trusts that CA. With
one file name for both, the file has the key. -/
structure Serving (lib : CertLib B) (options : Options) (w : CertWorld I B) (i : I)
    (secret : CertSecret B) (ca : Cert) (leaf : TLSCertificate) : Prop where
  stored : w.secret = some secret
  caCrt : lib.parseCertPEM secret.data.caCrt = .ok ca
  key : w.disk i options.setDefaults.keyPath = some (lib.encodeECPrivateKeyPEM leaf.privateKey)
  cert : options.setDefaults.certPath ≠ options.setDefaults.keyPath →
    w.disk i options.setDefaults.certPath = some (lib.encodeCertPEM leaf.leaf)
  pair : leaf.leaf.publicKey = leaf.privateKey
  issued : leaf.leaf.IssuedBy ca
  names : leaf.leaf.dnsNames = options.dnsNames
  caBundles : ∀ cfg, w.configuration = some cfg → ∀ caBundle ∈ cfg.caBundles,
    caBundle = secret.data.caCrt

omit [DecidableEq I] [DecidableEq B] in
theorem Held.serving {i : I} {σ : CertStage B} (h : Held i w σ)
    (hshared : Shared lib options.setDefaults w)
    (hpublished : Published options.setDefaults σ (.ok ())) :
    ∃ secret ca leaf, Serving lib options w i secret ca leaf := by
  obtain ⟨data, hdata, hdisk, hpatched⟩ := hpublished rfl
  obtain ⟨stored, hstored, rfl⟩ := h.seen data hdata
  obtain ⟨ca, caKey, hsigns, hissued⟩ := hshared.issued
  obtain ⟨leaf, hcrt, hkey, hpair, hissuer, hsigner, hnames⟩ := (hissued stored hstored).leaf
  cases hsecret : w.secret with
  | none =>
    rw [hshared.kept hsecret] at hstored
    cases hstored
  | some secret =>
    have hmem : secret ∈ w.secrets := hshared.stored secret hsecret
    refine ⟨secret, ca, leaf, hsecret, ?_, ?_, ?_, hpair, ⟨hsigns, hissuer, hsigner⟩, hnames, ?_⟩
    · rw [(hissued secret hmem).caCrt]
      exact lib.parse_encodeCert ca
    · rw [← hkey]
      exact h.files _ _ hdisk.key
    · intro hfiles
      rw [← hcrt]
      exact h.files _ _ (hdisk.cert hfiles)
    · intro cfg hcfg caBundle hbundle
      rw [hshared.same_ca hmem hstored]
      exact (h.patched _ hpatched).2 cfg hcfg caBundle hbundle

/-- In every run of any number of replicas, the CA of the Secret is the first there was, and a
replica whose `Ensure` has returned serves a pair of that CA, which the configuration trusts. -/
theorem ensure_consistent (hw : w.Fresh)
    (hrun : Run (CertReplicas.Step lib options) ⟨w, fun _ => none⟩ acts s) :
    (∀ secret acts' s', s.world.secret = some secret →
      Run (CertReplicas.Step lib options) s acts' s' →
      ∃ secret', s'.world.secret = some secret' ∧ secret'.data.caCrt = secret.data.caCrt) ∧
    ∀ i, s.running i = some (.pure (.ok ())) →
      ∃ secret ca leaf, Serving lib options s.world i secret ca leaf := by
  have hcovered := covered hw hrun
  refine ⟨?_, ?_⟩
  · intro secret acts' s' hsecret hlater
    have hshared' := (covered hw (Run.append_iff.mpr ⟨s, hrun, hlater⟩)).1
    have hmem : secret ∈ s'.world.secrets :=
      secrets_kept hlater (hcovered.1.stored secret hsecret)
    cases hsecret' : s'.world.secret with
    | none =>
      rw [hshared'.kept hsecret'] at hmem
      cases hmem
    | some secret' => exact ⟨secret', rfl, hshared'.same_ca (hshared'.stored _ hsecret') hmem⟩
  · intro i hreturned
    obtain ⟨σ, hheld, hpublished⟩ := hcovered.returned hreturned
    exact hheld.serving hcovered.1 hpublished

end AllReplicas

def installed : CertWorld Bool PemBlock where
  secret := none
  secrets := []
  configuration := some ⟨[.empty], 0⟩
  configurations := [⟨[.empty], 0⟩]
  nextVersion := 1
  disk := fun _ _ => none

/-- Two replicas start at once, and one loses the race to create the Secret. -/
theorem ensure_consistent_race : ∃ acts, ∃ s : CertReplicas Bool PemBlock,
    Run (CertReplicas.Step PemBlock.lib sampleOptions) ⟨installed, fun _ => none⟩ acts s ∧
    ∀ i, s.running i = some (.pure (.ok ())) ∧
      ∃ secret ca leaf, Serving PemBlock.lib sampleOptions s.world i secret ca leaf := by
  have hcreated := (@Run.nil _ _ (CertReplicas.Step PemBlock.lib sampleOptions)
      ⟨installed, fun _ => none⟩)
    |>.snoc (.start (i := false) rfl) |>.snoc (.start (i := true) rfl)
    |>.snoc (.call (i := false) rfl .noSecret) |>.snoc (.call (i := true) rfl .noSecret)
    |>.snoc (.call (i := false) rfl (.now 0)) |>.snoc (.call (i := true) rfl (.now 0))
    |>.snoc (.call (i := false) rfl (.generateKey (.ok 1)))
    |>.snoc (.call (i := true) rfl (.generateKey (.ok 3)))
    |>.snoc (.call (i := false) rfl (.generateKey (.ok 2)))
    |>.snoc (.call (i := true) rfl (.generateKey (.ok 4)))
    |>.snoc (.call (i := false) rfl (.createSecret rfl))
    |>.snoc (.call (i := true) rfl (.secretExists rfl))
    |>.snoc (.call (i := true) rfl (.getSecret List.mem_cons_self))
    |>.snoc (.call (i := true) rfl (.now 0))
  have hwritten := hcreated
    |>.snoc (.call (i := true) rfl (.mkdirAll (.ok ())))
    |>.snoc (.call (i := false) rfl (.mkdirAll (.ok ())))
    |>.snoc (.call (i := true) rfl (.readFileFailed ""))
    |>.snoc (.call (i := true) rfl .writeFile)
    |>.snoc (.call (i := true) rfl (.readFileFailed ""))
    |>.snoc (.call (i := true) rfl .writeFile)
    |>.snoc (.call (i := false) rfl (.readFileFailed ""))
    |>.snoc (.call (i := false) rfl .writeFile)
    |>.snoc (.call (i := false) rfl (.readFileFailed ""))
    |>.snoc (.call (i := false) rfl .writeFile)
  have hpatched := hwritten
    |>.snoc (.call (i := true) rfl (.getConfiguration List.mem_cons_self))
    |>.snoc (.call (i := false) rfl (.getConfiguration List.mem_cons_self))
    |>.snoc (.call (i := true) rfl (.updateConfiguration rfl rfl))
    |>.snoc (.call (i := false) rfl .configurationConflict)
    |>.snoc (.call (i := false) rfl (.getConfiguration List.mem_cons_self))
  refine ⟨_, _, hpatched, ?_⟩
  intro i
  refine ⟨?returned, (ensure_consistent ⟨rfl, rfl, rfl⟩ hpatched).2 i ?returned⟩
  cases i with
  | false | true => rfl

end KubeZap.WebhookCerts
