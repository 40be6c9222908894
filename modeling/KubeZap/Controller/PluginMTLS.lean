import KubeZap.Certs.CertUtil
import KubeZap.Controller.ExecuteStep
import KubeZap.Foundation.Run

/-! # The channel to a plugin

`plugin_mtls.go`, `reconcilePluginMTLS` and the choice of client in `doPluginPublish`. The
bundle of a plugin is in the memory of the controller: `IntegrationReconciler` puts it
there, and a publish takes what it finds. Until the first reconcile after a start there
is nothing to find, and the publish goes out in the clear.
-/

namespace KubeZap

open Foundation Function

/-! ## The store -/

abbrev PluginMTLSStore := String → Option MTLSBundle

def pluginMTLSStoreKey (namespace_ name : String) : String := namespace_ ++ "/" ++ name

namespace PluginMTLSStore

def new : PluginMTLSStore := fun _ => none

/-- The bundle, and the store with it; `keys` are drawn if it has to be generated. -/
def getOrGenerate (s : PluginMTLSStore) (namespace_ name : String) (serverDNSNames : List String)
    (keys : BundleKeys) (now : Time) : Except String (MTLSBundle × PluginMTLSStore) :=
  let key := pluginMTLSStoreKey namespace_ name
  let generated : Except String (MTLSBundle × PluginMTLSStore) := do
    let bundle ← generatePluginMTLSBundle name serverDNSNames keys now
    pure (bundle, update s key (some bundle))
  match s key with
  | some existing => if existing.needsRotation now then generated else .ok (existing, s)
  | none => generated

def clientTLSConfigFor (s : PluginMTLSStore) (namespace_ name : String) : Option ClientTLSConfig :=
  (s (pluginMTLSStoreKey namespace_ name)).map MTLSBundle.clientTLSConfig

def remove (s : PluginMTLSStore) (namespace_ name : String) : PluginMTLSStore :=
  update s (pluginMTLSStoreKey namespace_ name) none

end PluginMTLSStore

def pluginMTLSEnabled (integration : Integration) : Bool :=
  match integration.plugin with
  | some plugin => (plugin.mtls.map (·.enabled)).getD false
  | none => false

def pluginServerDNSNames (name : NamespacedName) : List String :=
  let deploymentName := "kubezap-plugin-" ++ name.name
  [deploymentName ++ "." ++ name.namespace_ ++ ".svc",
    deploymentName ++ "." ++ name.namespace_ ++ ".svc.cluster.local"]

/-- What `reconcilePluginMTLS` leaves in the store. -/
def reconciledPluginStore (s : PluginMTLSStore) (integration : Integration) (keys : BundleKeys)
    (now : Time) : Except String PluginMTLSStore :=
  if pluginMTLSEnabled integration then
    (s.getOrGenerate integration.name.namespace_ integration.name.name
      (pluginServerDNSNames integration.name) keys now).map Prod.snd
  else .ok (s.remove integration.name.namespace_ integration.name.name)

/-! ## Sending -/

/-- A request on the wire: its URL, and the TLS configuration of the client it is sent through,
`none` for the shared client. -/
structure Transmission where
  url : String
  client : Option ClientTLSConfig
  envelope : PluginPublishEnvelope

/-- The choice of scheme and client that `doPluginPublish` makes. -/
def pluginTransmission (lib : GoLib) (s : PluginMTLSStore) (resolvedURL : String)
    (envelope : PluginPublishEnvelope) : Transmission :=
  match s.clientTLSConfigFor envelope.namespace_ envelope.integration with
  | some tlsConfig => ⟨lib.replaceAll resolvedURL "http://" "https://", some tlsConfig, envelope⟩
  | none => ⟨resolvedURL, none, envelope⟩

def pluginURL (integration : Integration) (plugin : PluginIntegrationSpec) : String :=
  let port := if plugin.publisherPort = 0 then 8090 else plugin.publisherPort
  "http://kubezap-plugin-" ++ integration.name.name ++ "." ++ integration.name.namespace_ ++
    ".svc.cluster.local:" ++ toString port ++ "/publish"

/-! ## One controller after another -/

/-- A start of the controller; the store's part of a reconcile; an attempt of a publish step, with
the targets of the redirects (307 or 308) that it is answered with, which are sent the envelope
too. -/
inductive PluginEvent
  | restart
  | reconcile (integration : Integration) (keys : BundleKeys) (now : Time)
  | publish (integration : Integration) (envelope : PluginPublishEnvelope)
      (redirects : List String)

structure PluginChannel where
  store : PluginMTLSStore
  wire : List Transmission

namespace PluginChannel

def start : PluginChannel := ⟨.new, []⟩

/-- Reconciles are made one at a time, and one that fails before it comes to the store is none. A
publish looks into the store once for each attempt. -/
inductive Step (lib : GoLib) (s : PluginChannel) : PluginEvent → PluginChannel → Prop
  | restart : Step lib s .restart { s with store := .new }
  | reconcile {integration : Integration} {keys : BundleKeys} {now : Time}
      {store : PluginMTLSStore} :
      reconciledPluginStore s.store integration keys now = .ok store →
      Step lib s (.reconcile integration keys now) { s with store := store }
  | publish {integration : Integration} {plugin : PluginIntegrationSpec}
      {envelope : PluginPublishEnvelope} (redirects : List String) :
      integration.plugin = some plugin → envelope.integration = integration.name.name →
      envelope.namespace_ = integration.name.namespace_ →
      Step lib s (.publish integration envelope redirects)
        (let sent := pluginTransmission lib s.store (pluginURL integration plugin) envelope
         { s with wire := s.wire ++ sent :: redirects.map fun url => { sent with url := url } })

end PluginChannel

/-- The events are about Integrations of the API server, and the named one has mTLS enabled. -/
def MTLSThroughout (name : NamespacedName) (events : List PluginEvent) : Prop :=
  ∀ integration keys now, .reconcile integration keys now ∈ events →
    integration.name.Admitted ∧ (integration.name = name → pluginMTLSEnabled integration)

/-- The Integration was reconciled after the last start of the controller. -/
def ReconciledSince (name : NamespacedName) (events : List PluginEvent) : Prop :=
  ∃ earlier integration keys now later,
    events = earlier ++ .reconcile integration keys now :: later ∧ integration.name = name ∧
      .restart ∉ later

/-- An attempt for the Integration comes after its first reconcile of this controller, and is not
redirected to an address in the clear. -/
def PublishesReady (name : NamespacedName) (before : List PluginEvent) : PluginEvent → Prop
  | .publish integration _ redirects =>
    integration.name = name →
      ReconciledSince name before ∧ ∀ url ∈ redirects, startsWith url "https://"
  | _ => True

def OwnBundle (name : NamespacedName) (events : List PluginEvent) (bundle : MTLSBundle) : Prop :=
  ∃ integration keys now, .reconcile integration keys now ∈ events ∧ integration.name = name ∧
    generatePluginMTLSBundle name.name (pluginServerDNSNames name) keys now = .ok bundle

theorem OwnBundle.mono {name : NamespacedName} {events later : List PluginEvent}
    {bundle : MTLSBundle} (h : OwnBundle name events bundle) :
    OwnBundle name (events ++ later) bundle := by
  obtain ⟨integration, keys, now, hmem, hrest⟩ := h
  exact ⟨integration, keys, now, List.mem_append_left _ hmem, hrest⟩

/-! ## The store through a run -/

section Store

variable {lib : GoLib} {name : NamespacedName} {s s' : PluginMTLSStore}

theorem getOrGenerate_spec {serverDNSNames : List String} {keys : BundleKeys} {now : Time}
    {bundle : MTLSBundle}
    (h : s.getOrGenerate name.namespace_ name.name serverDNSNames keys now = .ok (bundle, s')) :
    s' = update s (pluginMTLSStoreKey name.namespace_ name.name) (some bundle) ∧
      (s (pluginMTLSStoreKey name.namespace_ name.name) = some bundle ∨
        generatePluginMTLSBundle name.name serverDNSNames keys now = .ok bundle) := by
  obtain ⟨made, hmade, -⟩ := generatePluginMTLSBundle_spec name.name serverDNSNames keys now
  unfold PluginMTLSStore.getOrGenerate at h
  rw [hmade] at h
  cases hheld : s (pluginMTLSStoreKey name.namespace_ name.name) with
  | none =>
    simp only [hheld] at h
    cases h
    exact ⟨rfl, .inr hmade⟩
  | some existing =>
    simp only [hheld] at h
    split at h
    · cases h
      exact ⟨rfl, .inr hmade⟩
    · cases h
      exact ⟨(update_eq_self_iff.mpr hheld.symm).symm, .inl rfl⟩

theorem exists_reconciledPluginStore (s : PluginMTLSStore) (integration : Integration)
    (keys : BundleKeys) (now : Time) :
    ∃ s', reconciledPluginStore s integration keys now = .ok s' := by
  obtain ⟨made, hmade, -⟩ := generatePluginMTLSBundle_spec integration.name.name
    (pluginServerDNSNames integration.name) keys now
  unfold reconciledPluginStore PluginMTLSStore.getOrGenerate
  rw [hmade]
  split
  · cases hheld : s (pluginMTLSStoreKey integration.name.namespace_ integration.name.name) with
    | none => exact ⟨_, by simp only [hheld]; rfl⟩
    | some existing =>
      cases hdue : existing.needsRotation now with
      | true => exact ⟨_, by simp only [hheld, hdue, if_true]; rfl⟩
      | false => exact ⟨_, by simp only [hheld, hdue, Bool.false_eq_true, if_false]; rfl⟩
  · exact ⟨_, rfl⟩

theorem reconciledPluginStore_own {integration : Integration} {keys : BundleKeys} {now : Time}
    (henabled : pluginMTLSEnabled integration)
    (h : reconciledPluginStore s integration keys now = .ok s') :
    ∃ bundle, s' (pluginMTLSStoreKey integration.name.namespace_ integration.name.name) =
        some bundle ∧
      (s (pluginMTLSStoreKey integration.name.namespace_ integration.name.name) = some bundle ∨
        generatePluginMTLSBundle integration.name.name (pluginServerDNSNames integration.name)
          keys now = .ok bundle) := by
  rw [reconciledPluginStore, if_pos henabled] at h
  cases hget : s.getOrGenerate integration.name.namespace_ integration.name.name
      (pluginServerDNSNames integration.name) keys now with
  | error err =>
    rw [hget] at h
    cases h
  | ok result =>
    obtain ⟨bundle, store⟩ := result
    rw [hget] at h
    cases h
    obtain ⟨rfl, hbundle⟩ := getOrGenerate_spec hget
    exact ⟨bundle, update_self .., hbundle⟩

theorem reconciledPluginStore_other {integration : Integration} {keys : BundleKeys} {now : Time}
    {key : String}
    (hne : key ≠ pluginMTLSStoreKey integration.name.namespace_ integration.name.name)
    (h : reconciledPluginStore s integration keys now = .ok s') : s' key = s key := by
  unfold reconciledPluginStore at h
  split at h
  · cases hget : s.getOrGenerate integration.name.namespace_ integration.name.name
        (pluginServerDNSNames integration.name) keys now with
    | error err =>
      rw [hget] at h
      cases h
    | ok result =>
      obtain ⟨bundle, store⟩ := result
      rw [hget] at h
      cases h
      obtain ⟨rfl, -⟩ := getOrGenerate_spec hget
      exact update_of_ne hne ..
  · cases h
    exact update_of_ne hne ..

end Store

namespace PluginChannel

variable {lib : GoLib} {name : NamespacedName} {s s' : PluginChannel} {events : List PluginEvent}

theorem store_own (hname : name.Admitted) (hrun : Run (Step lib) start events s)
    (henabled : MTLSThroughout name events) {bundle : MTLSBundle}
    (hbundle : s.store (pluginMTLSStoreKey name.namespace_ name.name) = some bundle) :
    OwnBundle name events bundle := by
  induction hrun generalizing bundle with
  | nil => cases hbundle
  | @snoc before event mid last _ hstep ih =>
    have hbefore : MTLSThroughout name before := fun integration keys now hmem =>
      henabled integration keys now (List.mem_append_left _ hmem)
    cases hstep with
    | restart => cases hbundle
    | publish => exact (ih hbefore hbundle).mono
    | @reconcile integration keys now store hstore =>
      obtain ⟨hadmitted, hmtls⟩ := henabled integration keys now (by simp)
      by_cases hsame : integration.name = name
      · subst hsame
        obtain ⟨kept, hkept, hfrom⟩ := reconciledPluginStore_own (hmtls rfl) hstore
        cases hkept.symm.trans hbundle
        rcases hfrom with hold | hnew
        · exact (ih hbefore hold).mono
        · exact ⟨integration, keys, now, by simp, rfl, hnew⟩
      · have hne := fun hkey => hsame (NamespacedName.eq_of_slash hname hadmitted hkey).symm
        exact (ih hbefore ((reconciledPluginStore_other hne hstore).symm.trans hbundle)).mono

theorem store_isSome (hname : name.Admitted) (hrun : Run (Step lib) s events s')
    (henabled : MTLSThroughout name events) (hsince : ReconciledSince name events) :
    (s'.store (pluginMTLSStoreKey name.namespace_ name.name)).isSome := by
  obtain ⟨earlier, first, keys, now, later, rfl, rfl, hlater⟩ := hsince
  obtain ⟨mid, mid', -, hfirst, hrest⟩ := Run.split_iff.mp hrun
  apply hrest.always_mem fun s =>
    (s.store (pluginMTLSStoreKey first.name.namespace_ first.name.name)).isSome
  · cases hfirst with
    | reconcile hstore =>
      obtain ⟨bundle, hbundle, -⟩ :=
        reconciledPluginStore_own ((henabled first keys now (by simp)).2 rfl) hstore
      exact Option.isSome_iff_exists.mpr ⟨bundle, hbundle⟩
  · intro s event s' hmem hsome hstep
    cases hstep with
    | restart => exact absurd hmem hlater
    | publish => exact hsome
    | @reconcile integration keys now store hstore =>
      obtain ⟨hadmitted, hmtls⟩ := henabled integration keys now (by simp [hmem])
      by_cases hsame : integration.name = first.name
      · obtain ⟨bundle, hbundle, -⟩ := reconciledPluginStore_own (hmtls hsame) hstore
        rw [hsame] at hbundle
        exact Option.isSome_iff_exists.mpr ⟨bundle, hbundle⟩
      · have hne := fun hkey => hsame (NamespacedName.eq_of_slash hname hadmitted hkey).symm
        exact (congrArg Option.isSome (reconciledPluginStore_other hne hstore)).trans hsome

end PluginChannel

/-! ## What is sent -/

theorem stringsReplaceAll_https (rest : String) :
    startsWith (stringsReplaceAll ("http://" ++ rest) "http://" "https://") "https://" := by
  have htext : (stringsReplaceAll ("http://" ++ rest) "http://" "https://").toList =
      "https://".toList ++ replaceAllFrom "http://".toList "https://".toList 0 rest.toList := by
    rw [stringsReplaceAll, String.toList_ofList, String.toList_append]
    rfl
  rw [startsWith, htext]
  exact List.isPrefixOf_iff_prefix.mpr (List.prefix_append _ _)

theorem pluginURL_scheme (integration : Integration) (plugin : PluginIntegrationSpec) :
    ∃ rest, pluginURL integration plugin = "http://" ++ rest := by
  have hsplit (rest : String) : "http://kubezap-plugin-" ++ rest =
      "http://" ++ ("kubezap-plugin-" ++ rest) := by
    apply String.toList_injective
    simp only [String.toList_append]
    rfl
  have haddress (name ns port : String) : ∃ rest, "http://kubezap-plugin-" ++ name ++ "." ++ ns ++
      ".svc.cluster.local:" ++ port ++ "/publish" = "http://" ++ rest := by
    simp only [String.append_assoc]
    exact ⟨_, hsplit _⟩
  exact haddress _ _ _

theorem pluginTransmission_mtls {lib : GoLib} (hlib : lib.replaceAll = stringsReplaceAll)
    {s : PluginMTLSStore} {integration : Integration} {plugin : PluginIntegrationSpec}
    {envelope : PluginPublishEnvelope} {bundle : MTLSBundle}
    (hbundle : s (pluginMTLSStoreKey envelope.namespace_ envelope.integration) = some bundle) :
    startsWith (pluginTransmission lib s (pluginURL integration plugin) envelope).url "https://" ∧
      (pluginTransmission lib s (pluginURL integration plugin) envelope).client =
        some bundle.clientTLSConfig := by
  obtain ⟨rest, hrest⟩ := pluginURL_scheme integration plugin
  rw [pluginTransmission, PluginMTLSStore.clientTLSConfigFor, hbundle, hlib, hrest]
  exact ⟨stringsReplaceAll_https rest, rfl⟩

theorem sent_again {sent t : Transmission} {redirects : List String}
    (h : t ∈ sent :: redirects.map fun url => { sent with url := url }) :
    t.envelope = sent.envelope ∧ t.client = sent.client ∧ (t.url = sent.url ∨ t.url ∈ redirects) := by
  rcases List.mem_cons.mp h with rfl | h
  · exact ⟨rfl, rfl, .inl rfl⟩
  · obtain ⟨url, hmem, rfl⟩ := List.mem_map.mp h
    exact ⟨rfl, rfl, .inr hmem⟩

namespace PluginChannel

/-- Where every attempt for the Integration comes after the controller has reconciled it, and is
not redirected into the clear: through all restarts, reconciles and rotations nothing is sent for
it but under TLS, with a client certificate and roots that were generated for it. -/
theorem plugin_mtls_kept {lib : GoLib} (hlib : lib.replaceAll = stringsReplaceAll)
    {name : NamespacedName} (hname : name.Admitted) {events : List PluginEvent} {s : PluginChannel}
    (hrun : Run (Step lib) start events s) (henabled : MTLSThroughout name events)
    (hready : Guarded (PublishesReady name) events) :
    ∀ t ∈ s.wire, t.envelope.integration = name.name → t.envelope.namespace_ = name.namespace_ →
      startsWith t.url "https://" ∧
        ∃ bundle, OwnBundle name events bundle ∧ t.client = some bundle.clientTLSConfig := by
  induction hrun with
  | nil => simp [start]
  | @snoc before event mid last hfront hstep ih =>
    have hbefore : MTLSThroughout name before := fun integration keys now hmem =>
      henabled integration keys now (List.mem_append_left _ hmem)
    have hold : ∀ t ∈ mid.wire, t.envelope.integration = name.name →
        t.envelope.namespace_ = name.namespace_ → startsWith t.url "https://" ∧
          ∃ bundle, OwnBundle name (before ++ [event]) bundle ∧
            t.client = some bundle.clientTLSConfig := by
      intro t ht hn hns
      obtain ⟨hurl, bundle, hown, hclient⟩ := ih hbefore hready.front t ht hn hns
      exact ⟨hurl, bundle, hown.mono, hclient⟩
    cases hstep with
    | restart | reconcile => exact hold
    | @publish integration plugin envelope redirects hplugin hint hns =>
      intro t ht htname htns
      rcases List.mem_append.mp ht with ht | ht
      · exact hold t ht htname htns
      · obtain ⟨henvelope, hsentBy, hurl⟩ := sent_again ht
        have hkept (url : String) :
            (pluginTransmission lib mid.store url envelope).envelope = envelope := by
          unfold pluginTransmission
          split <;> rfl
        rw [henvelope, hkept] at htname htns
        have hsame : integration.name = name :=
          NamespacedName.ext (hns.symm.trans htns) (hint.symm.trans htname)
        obtain ⟨hsince, hredirects⟩ := hready.last hsame
        obtain ⟨bundle, hbundle⟩ :=
          Option.isSome_iff_exists.mp (store_isSome hname hfront hbefore hsince)
        have hown := store_own hname hfront hbefore hbundle
        rw [← htname, ← htns] at hbundle
        obtain ⟨hsecure, hclient⟩ :=
          @pluginTransmission_mtls _ hlib _ integration plugin envelope _ hbundle
        refine ⟨?_, bundle, hown.mono, hsentBy.trans hclient⟩
        rcases hurl with hurl | hurl
        · rw [hurl]
          exact hsecure
        · exact hredirects t.url hurl

/-! ## A publish after a restart -/

def snsPlugin : Integration where
  name := ⟨"team", "sns"⟩
  type := .plugin
  plugin := some { image := "plugin", mtls := some { enabled := true } }

def order : PluginPublishEnvelope := ⟨"sns", "team", "orders", [], "order 1", "kz1-0"⟩

theorem snsPlugin_mtls {keys : BundleKeys} {now : Time} {later : List PluginEvent}
    (hlater : ∀ integration keys now, .reconcile integration keys now ∉ later) :
    MTLSThroughout ⟨"team", "sns"⟩ (.reconcile snsPlugin keys now :: later) := by
  intro integration keys' now' hmem
  rcases List.mem_cons.mp hmem with heq | hmem
  · cases heq
    exact ⟨by decide, fun _ => rfl⟩
  · exact absurd hmem (hlater integration keys' now')

/-- The controller has reconciled the Integration: its order goes out under TLS. -/
theorem plugin_mtls_kept_sns :
    ∃ s, Run (Step replacingLib) start
        [.reconcile snsPlugin ⟨1, 2, 3⟩ 0, .publish snsPlugin order []] s ∧ s.wire ≠ [] ∧
      ∀ t ∈ s.wire, t.envelope.integration = "sns" → t.envelope.namespace_ = "team" →
        startsWith t.url "https://" ∧
          ∃ bundle, OwnBundle ⟨"team", "sns"⟩
            [.reconcile snsPlugin ⟨1, 2, 3⟩ 0, .publish snsPlugin order []] bundle ∧
            t.client = some bundle.clientTLSConfig := by
  obtain ⟨store, hstore⟩ := exists_reconciledPluginStore .new snsPlugin ⟨1, 2, 3⟩ 0
  have hrun : Run (Step replacingLib) start
      [.reconcile snsPlugin ⟨1, 2, 3⟩ 0, .publish snsPlugin order []] _ :=
    .snoc (.snoc .nil (.reconcile hstore)) (.publish [] rfl rfl rfl)
  have hready : Guarded (PublishesReady ⟨"team", "sns"⟩)
      [.reconcile snsPlugin ⟨1, 2, 3⟩ 0, .publish snsPlugin order []] := by
    refine (Guarded.single trivial).snoc fun _ => ⟨?_, by simp⟩
    exact ⟨[], snsPlugin, ⟨1, 2, 3⟩, 0, [], rfl, rfl, by simp⟩
  exact ⟨_, hrun, by simp, plugin_mtls_kept rfl (by decide) hrun
    (snsPlugin_mtls (by simp)) hready⟩

/-- The controller restarts, and a publish comes before the reconcile: the order goes out in the
clear, through the shared client. -/
theorem plugin_mtls_downgraded :
    ∃ s t, Run (Step replacingLib) start
        [.reconcile snsPlugin ⟨1, 2, 3⟩ 0, .restart, .publish snsPlugin order []] s ∧
      MTLSThroughout ⟨"team", "sns"⟩
        [.reconcile snsPlugin ⟨1, 2, 3⟩ 0, .restart, .publish snsPlugin order []] ∧
      t ∈ s.wire ∧ t.envelope = order ∧
      t.url = "http://kubezap-plugin-sns.team.svc.cluster.local:8090/publish" ∧ t.client = none := by
  obtain ⟨store, hstore⟩ := exists_reconciledPluginStore .new snsPlugin ⟨1, 2, 3⟩ 0
  refine ⟨_, _, .snoc (.snoc (.snoc .nil (.reconcile hstore)) .restart) (.publish [] rfl rfl rfl),
    snsPlugin_mtls (by simp), List.mem_append_right _ List.mem_cons_self, ?_⟩
  refine ⟨rfl, ?_, rfl⟩
  show (pluginTransmission replacingLib .new (pluginURL snsPlugin _) order).url = _
  decide +kernel

end PluginChannel

end KubeZap
